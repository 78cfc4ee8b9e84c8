import LorePia.Assistant.Restore

namespace LorePia.Assistant

open List

open Lib Lib.Stateful
open Discovery (DiscoverySessionId ModelRouteId EvidenceId)

/-!
# Whether a pending call can be answered

A call is accepted by its identifiers and texts, its answer by a byte limit and a search for
secrets, once in each text of the answer and once in the JSON it is kept as.

* `accepts_iff` — what an accepted answer passes;
* `accepts_plainAnswer` — of an answer that says the least, the other checks never fail;
* `pendingCall_answerable` — so a session whose calls have presentable plain answers always has
  an answer, and one about the questions exactly then.
-/

variable {X : AssistantExternals} {e e' : SetupAssistantEngine}

/-- `submit_tool_result` accepts the answer. -/
def Accepts (X : AssistantExternals) (e : SetupAssistantEngine) (callId : Nat)
    (result : AssistantToolResult) : Prop :=
  ∃ e', Step X e (.call (.submitToolResult callId result) (.ok .done)) e'

theorem accepts_iff {result : AssistantToolResult} :
    Accepts X e callId result ↔ e.state = .awaitingToolResult ∧
      ∃ call, e.pendingTool = some ⟨callId, call⟩ ∧ toolResultMatches call result = true ∧
        (call = .showUnresolvedQuestions → result = .unresolvedQuestions e.unresolvedQuestionIds) ∧
        validateToolResult X.toDraftExternals e.evidence e.allowedApiFamilies result = .ok () ∧
        (∃ json, X.toolResultJson (toolResultPrompt result) = some json ∧
          validateBoundedRedactedText X.toRedactionExternals json maxToolResultMessageBytes =
            .ok ()) ∧
        e.toolObservations.length < maxTranscriptObservations := by
  constructor
  · rintro ⟨e', h⟩
    obtain ⟨_, h⟩ := silent_ok h
    obtain ⟨hst, h⟩ := ensureState_bind_ok.mp h
    rw [exec_get_bind] at h
    obtain ⟨⟨id, call⟩, hpend, h⟩ := check_bind_ok.mp h
    obtain ⟨⟨rfl, hmatches⟩, h⟩ := check_guard_ok.mp h
    obtain ⟨hquests, h⟩ := check_guard_ok.mp h
    obtain ⟨_, hval, h⟩ := check_bind_ok.mp h
    obtain ⟨json, hjson, h⟩ := check_bind_ok.mp h
    obtain ⟨_, hred, h⟩ := check_bind_ok.mp h
    exact ⟨hst, call, okOr_ok.mp hpend, hmatches, hquests, hval,
      ⟨json, okOr_ok.mp hjson, hred⟩, (check_guard_ok.mp h).1⟩
  · rintro ⟨hst, call, hpend, hmatches, hquests, hval, ⟨json, hjson, hred⟩, hroom⟩
    let next : SetupAssistantEngine := { e with
      toolObservations := e.toolObservations ++ [⟨callId, toolResultPrompt result⟩]
      unresolvedQuestions := if call = .showUnresolvedQuestions then [] else e.unresolvedQuestions
      pendingTool := none
      state := .ready }
    refine ⟨next, bind_ok'.mpr ⟨(), next, ensureState_bind_ok.mpr ⟨hst, ?_⟩, rfl⟩⟩
    rw [exec_get_bind]
    refine check_bind_ok.mpr ⟨_, okOr_ok.mpr hpend, ?_⟩
    refine check_guard_ok.mpr ⟨⟨rfl, hmatches⟩, ?_⟩
    refine check_guard_ok.mpr ⟨hquests, check_bind_ok.mpr ⟨(), hval, ?_⟩⟩
    refine check_bind_ok.mpr ⟨json, okOr_ok.mpr hjson, ?_⟩
    exact check_bind_ok.mpr ⟨(), hred, check_guard_ok.mpr ⟨hroom, rfl⟩⟩

/-! ### Plain answers -/

/-- The answer to a call that says the least. -/
def plainAnswer (e : SetupAssistantEngine) : AssistantToolCall → AssistantToolResult
  | .searchOfficialDocs _ => .officialDocsSearch []
  | .inspectEvidence id => .evidenceInspection id []
  | .fetchDiscoveryDocument id => .discoveryDocumentFetched id []
  | .listModels id => .modelsListed id []
  | .testConnection id => .connectionTested id false "failed"
  | .probeCapability id capability => .capabilityProbed id capability none [] "failed"
  | .listManifestAdapterFamilies => .adapterFamilies (e.allowedApiFamilies.take 1)
  | .validateManifestDraft _ => .manifestValidation false []
  | .showUnresolvedQuestions => .unresolvedQuestions e.unresolvedQuestionIds

/-- The texts of an answer that are searched one by one. -/
def AssistantToolResult.texts : AssistantToolResult → List String
  | .connectionTested _ _ summary | .capabilityProbed _ _ _ _ summary => [summary]
  | .manifestValidation _ texts | .unresolvedQuestions texts => texts
  | _ => []

/-- An answer without anything like a secret, in its texts and in its JSON, which is short. -/
structure Presentable (X : AssistantExternals) (result : AssistantToolResult) : Prop where
  texts : ∀ text ∈ result.texts, containsSuspectedSecret X.toRedactionExternals text = false
  json : ∃ json, X.toolResultJson (toolResultPrompt result) = some json ∧
    byteLen json ≤ maxToolResultMessageBytes ∧ '\x00' ∉ json.toList ∧
    containsSuspectedSecret X.toRedactionExternals json = false

theorem validateBoundedRedactedText_ok {value : String} {maximum : Nat} :
    validateBoundedRedactedText R value maximum = .ok () ↔
      (byteLen value ≤ maximum ∧ '\x00' ∉ value.toList) ∧
        containsSuspectedSecret R value = false := by
  rw [validateBoundedRedactedText, guard_ok, require_ok]

theorem isWhitespace_of_isIdentifierChar (h : isIdentifierChar c = true) :
    isWhitespace c = false := by
  have hrange : 0x21 ≤ c.toNat ∧ c.toNat ≤ 0x7E := by
    simp only [isIdentifierChar, isAsciiAlphanumeric, Bool.or_eq_true, Bool.and_eq_true,
      decide_eq_true_eq, beq_iff_eq, Char.le_def, UInt32.le_iff_toNat_le] at h
    rcases h with (((((h | h) | h) | rfl) | rfl) | rfl) | rfl
    · change 97 ≤ c.toNat ∧ c.toNat ≤ 122 at h
      omega
    · change 65 ≤ c.toNat ∧ c.toNat ≤ 90 at h
      omega
    · change 48 ≤ c.toNat ∧ c.toNat ≤ 57 at h
      omega
    all_goals decide
  simp only [isWhitespace, Bool.or_eq_false_iff, Bool.and_eq_false_iff, decide_eq_false_iff_not,
    beq_eq_false_iff_ne, ne_eq, UInt32.le_iff_toNat_le, ← UInt32.toNat_inj]
  simp
  omega

/-- An identifier has nothing to trim, and no NUL. -/
theorem identifier_text {value : String} (h : validateIdentifier value = .ok ()) :
    trim value ≠ "" ∧ byteLen value ≤ maxToolResultMessageBytes ∧ '\x00' ∉ value.toList := by
  obtain ⟨hne, hlen, hchars⟩ := require_ok.mp h
  rw [all_eq_true] at hchars
  have hkeep : ∀ cs : List Char, (∀ c ∈ cs, isIdentifierChar c = true) →
      cs.dropWhile isWhitespace = cs := by
    intro cs hcs
    cases cs with
    | nil => rfl
    | cons c cs =>
      rw [dropWhile_cons, isWhitespace_of_isIdentifierChar (hcs c mem_cons_self)]
      rfl
  refine ⟨?_, hlen.trans (by decide), fun hnul => ?_⟩
  · have hreverse : ∀ c ∈ value.toList.reverse, isIdentifierChar c = true :=
      fun c hc => hchars c (mem_reverse.mp hc)
    rw [trim, hkeep _ hchars, hkeep _ hreverse, reverse_reverse, String.ofList_toList]
    exact hne
  · have hidentifier := hchars _ hnul
    revert hidentifier
    decide

theorem validateStringItems_ok (hlen : items.length ≤ maxToolResultItems)
    (hitems : ∀ item ∈ items, validateIdentifier item = .ok ()) :
    validateStringItems X.toDraftExternals items = .ok () ↔
      ∀ item ∈ items, containsSuspectedSecret X.toRedactionExternals item = false := by
  rw [validateStringItems, guard_ok, forEach_ok]
  simp only [guard_ok, mapError_ok, validateBoundedRedactedText_ok]
  constructor
  · exact fun h item hitem => (h.2 item hitem).2.2
  · intro h
    refine ⟨hlen, fun item hitem => ?_⟩
    obtain ⟨htrim, hbytes, hnul⟩ := identifier_text (hitems item hitem)
    exact ⟨htrim, ⟨hbytes, hnul⟩, h item hitem⟩

theorem validateToolSummary_failed
    (h : containsSuspectedSecret X.toRedactionExternals "failed" = false) :
    validateToolSummary X.toDraftExternals "failed" = .ok () := by
  refine guarded (by decide) (mapError_ok.mpr ?_)
  exact validateBoundedRedactedText_ok.mpr ⟨⟨by decide, by decide⟩, h⟩

theorem toolResultMatches_plainAnswer (call : AssistantToolCall) :
    toolResultMatches call (plainAnswer e call) = true := by
  cases call <;> simp [plainAnswer, toolResultMatches]

/-- The questions have identifiers, and there are not too many. -/
theorem validateStringItems_questions (h : Invariant X e) :
    validateStringItems X.toDraftExternals e.unresolvedQuestionIds = .ok () ↔
      ∀ id ∈ e.unresolvedQuestionIds,
        containsSuspectedSecret X.toRedactionExternals id = false := by
  obtain ⟨hlen, hquests, _⟩ := validateQuestions_ok.mp h.questioned.valid
  refine validateStringItems_ok ?_ fun id hid => ?_
  · rw [SetupAssistantEngine.unresolvedQuestionIds, length_map]
    exact hlen
  · obtain ⟨question, hmem, rfl⟩ := mem_map.mp hid
    obtain ⟨_, hval, _⟩ := bind_ok.mp (hquests question hmem)
    exact mapError_ok.mp hval

/-! ### The pending call -/

section Pending

variable {callId : Nat} {call : AssistantToolCall} (h : Invariant X e)
  (hpend : e.pendingTool = some ⟨callId, call⟩)

include h hpend

/-- A call is one of thirty-two. -/
theorem room_of_pending : e.toolObservations.length < maxTranscriptObservations := by
  have hcall := h.pending _ hpend
  have hnodup : (e.toolObservations.map AssistantToolObservation.callId).Nodup :=
    (pairwise_map.mpr h.transcript.ordered).imp fun hlt => Nat.ne_of_lt hlt
  have hsubset : e.toolObservations.map AssistantToolObservation.callId ⊆ List.range callId := by
    refine forall_mem_map.mpr fun observation hmem => ?_
    exact mem_range.mpr (hcall.unanswered observation hmem)
  have hlen := (hnodup.subperm hsubset).length_le
  rw [length_map, length_range] at hlen
  have hlast : callId + 1 = e.nextCallId := hcall.last
  have hnext := h.transcript.next
  have hcalls := h.charged.toolCalls
  have hmax : e.budget.maxToolCalls ≤ 32 := h.identity.budget.2.2.2.2.2.1.2
  have hroom : maxTranscriptObservations = 64 := rfl
  omega

theorem validateToolResult_plainAnswer (hpresentable : Presentable X (plainAnswer e call)) :
    validateToolResult X.toDraftExternals e.evidence e.allowedApiFamilies (plainAnswer e call) =
      .ok () := by
  have hval := (h.pending _ hpend).valid
  have hids : validateEvidenceIds e.evidence [] = .ok () := by
    refine guarded (Nat.zero_le _) (require_ok.mpr ?_)
    exact ⟨nodup_nil, forall_mem_nil _⟩
  cases call with
  | searchOfficialDocs query => exact hids
  | inspectEvidence id => exact require_ok.mpr ⟨Nat.zero_le _, require_ok.mp hval⟩
  | fetchDiscoveryDocument id =>
    have hid := mapError_ok.mp hval
    exact then_ok (mapError_ok.mpr hid) hids
  | listModels id =>
    have hid := mapError_ok.mp hval
    refine then_ok (mapError_ok.mpr hid) ?_
    refine guarded (Nat.zero_le _) (require_ok.mpr ?_)
    exact ⟨nodup_nil, forall_mem_nil _⟩
  | testConnection id =>
    have hid := mapError_ok.mp hval
    have htext := hpresentable.texts "failed" (mem_singleton_self _)
    exact then_ok (mapError_ok.mpr hid) (validateToolSummary_failed htext)
  | probeCapability id capability =>
    have hid := mapError_ok.mp hval
    have htext := hpresentable.texts "failed" (mem_singleton_self _)
    exact then_ok (mapError_ok.mpr hid) (then_ok hids (validateToolSummary_failed htext))
  | listManifestAdapterFamilies =>
    refine require_ok.mpr ⟨?_, ?_, fun family hmem => mem_of_mem_take hmem⟩
    · simpa using h.identity.nonempty
    · exact (length_take_le _ _).trans (by decide)
  | validateManifestDraft draft => exact guarded (Nat.zero_le _) (forEach_ok.mpr (forall_mem_nil _))
  | showUnresolvedQuestions => exact (validateStringItems_questions h).mpr hpresentable.texts

/-- **A presentable plain answer is accepted.** -/
theorem accepts_plainAnswer (hpresentable : Presentable X (plainAnswer e call)) :
    Accepts X e callId (plainAnswer e call) := by
  have hst : e.state = .awaitingToolResult :=
    h.shaped.tool.mp (Option.isSome_iff_exists.mpr ⟨_, hpend⟩)
  obtain ⟨json, hjson, hbytes, hnul, hsec⟩ := hpresentable.json
  refine accepts_iff.mpr ⟨hst, call, hpend, toolResultMatches_plainAnswer call, ?_,
    validateToolResult_plainAnswer h hpend hpresentable,
    ⟨json, hjson, validateBoundedRedactedText_ok.mpr ⟨⟨hbytes, hnul⟩, hsec⟩⟩,
    room_of_pending h hpend⟩
  rintro rfl
  rfl

end Pending

/-- The only answer to a question about the questions. -/
theorem accepts_questions_iff (h : Invariant X e)
    (hpend : e.pendingTool = some ⟨callId, .showUnresolvedQuestions⟩) :
    Accepts X e callId (.unresolvedQuestions e.unresolvedQuestionIds) ↔
      Presentable X (.unresolvedQuestions e.unresolvedQuestionIds) := by
  constructor
  · intro haccs
    obtain ⟨_, _, _, _, _, hval, ⟨json, hjson, hred⟩, _⟩ := accepts_iff.mp haccs
    obtain ⟨⟨hbytes, hnul⟩, hsec⟩ := validateBoundedRedactedText_ok.mp hred
    exact ⟨(validateStringItems_questions h).mp hval, json, hjson, hbytes, hnul, hsec⟩
  · exact accepts_plainAnswer h hpend

/-! ### Runs -/

/-- A turn of the event asks for nothing but what has a presentable plain answer. -/
def Event.Presents (X : AssistantExternals) (e : SetupAssistantEngine) : Event → Prop
  | .call operation _ => ∀ call, operation.Submits X (.callTool call) →
      Presentable X (plainAnswer e call)
  | .restored => True

/-- A step whose calls have presentable plain answers. -/
def PresentingStep (X : AssistantExternals) (e : SetupAssistantEngine) (event : Event)
    (e' : SetupAssistantEngine) : Prop :=
  Step X e event e' ∧ event.Presents X e

/-- What is pending has a presentable plain answer. -/
def AwaitsPresentable (X : AssistantExternals) (e : SetupAssistantEngine) : Prop :=
  ∀ pending ∈ e.pendingTool, Presentable X (plainAnswer e pending.call)

theorem awaitsPresentable_of_step (h : Invariant X e) (h' : Invariant X e')
    (hawaits : AwaitsPresentable X e) (hstep : PresentingStep X e event e') :
    AwaitsPresentable X e' := by
  intro pending hpend
  have hst : e'.state = .awaitingToolResult :=
    h'.shaped.tool.mp (Option.isSome_iff_exists.mpr ⟨pending, hpend⟩)
  obtain ⟨hstep, hpresents⟩ := hstep
  cases event with
  | restored =>
    obtain rfl := fromSnapshot_snapshot_eq hstep
    exact hawaits pending hpend
  | call operation outcome =>
    cases outcome with
    | error error =>
      rcases failed_run hstep with ⟨rfl, _⟩ | ⟨_, _, rfl⟩
      · exact hawaits pending hpend
      · -- a turn that failed leaves no call
        unfold SetupAssistantEngine.reject SetupAssistantEngine.transitionAfterFailure at hst
        split at hst <;> cases hst
    | ok response =>
      cases effect_of_run hstep with
      | callTool hsubmits =>
        cases hpend
        exact hpresents _ hsubmits
      | addEvidence => exact hawaits pending hpend
      | replaceQuestions hbef => cases hbef.symm.trans hst
      | recordFailure =>
        unfold SetupAssistantEngine.transitionAfterFailure at hst
        split at hst <;> cases hst
      | _ => cases hst

/-- The pending call has an answer; the questions have the one that is allowed. -/
structure Answerable (X : AssistantExternals) (e : SetupAssistantEngine) : Prop where
  answer : ∃ callId call result, e.pendingTool = some ⟨callId, call⟩ ∧
    toolResultMatches call result = true ∧ Accepts X e callId result
  questions : ∀ callId, e.pendingTool = some ⟨callId, .showUnresolvedQuestions⟩ →
    Accepts X e callId (.unresolvedQuestions e.unresolvedQuestionIds)

theorem new_pendingTool
    (h : SetupAssistantEngine.new sessionId routeId families evidence budget = .ok e) :
    e.pendingTool = none := by
  obtain ⟨_, _, _, h⟩ := rest₃ h
  obtain ⟨_, _, _, h⟩ := rest₃ h
  obtain ⟨_, _, h⟩ := rest₂ h
  cases pure_inj h
  rfl

/-- **Pending calls and their answers.**  In every reachable state the questions can be answered
    iff their answer is presentable; in a run whose calls have presentable plain answers, every
    pending call can be answered. -/
theorem pendingCall_answerable (hX : X.Lawful) {sessionId : DiscoverySessionId}
    {routeId : ModelRouteId} {families : List ApiFamily}
    {evidence : List RedactedAssistantEvidence} {budget : AssistantBudget}
    {start : SetupAssistantEngine} {events : List Event}
    (hevid : ∀ item ∈ evidence, item.Built X.toRedactionExternals)
    (hnew : SetupAssistantEngine.new sessionId routeId families evidence budget = .ok start)
    (hbuilt : ∀ event ∈ events, event.Built X.toRedactionExternals)
    (hexec : Exec (Step X) start events e) :
    (∀ callId, e.pendingTool = some ⟨callId, .showUnresolvedQuestions⟩ →
      (Accepts X e callId (.unresolvedQuestions e.unresolvedQuestionIds) ↔
        Presentable X (.unresolvedQuestions e.unresolvedQuestionIds))) ∧
      (Exec (PresentingStep X) start events e → e.state = .awaitingToolResult →
        Answerable X e) := by
  have hinvariant := invariant_of_exec hX (new_invariant hevid hnew) hbuilt hexec
  refine ⟨fun callId hpend => accepts_questions_iff hinvariant hpend, fun hpresenting hst => ?_⟩
  have hstart : Invariant X start ∧ AwaitsPresentable X start := by
    refine ⟨new_invariant hevid hnew, fun pending hpend => ?_⟩
    rw [new_pendingTool hnew] at hpend
    cases hpend
  have hrun : Invariant X e ∧ AwaitsPresentable X e :=
    hpresenting.invariant_of_labels (I := fun e => Invariant X e ∧ AwaitsPresentable X e)
      (fun _ _ _ hboth hev hstep =>
        have hnext := invariant_of_step hX hboth.1 hev hstep.1
        ⟨hnext, awaitsPresentable_of_step hboth.1 hnext hboth.2 hstep⟩) hbuilt hstart
  obtain ⟨⟨callId, call⟩, hpend⟩ := Option.isSome_iff_exists.mp (hinvariant.shaped.tool.mpr hst)
  exact
    { answer := ⟨callId, call, plainAnswer e call, hpend, toolResultMatches_plainAnswer call,
        accepts_plainAnswer hinvariant hpend (hrun.2 _ hpend)⟩
      questions := fun id hshow =>
        (accepts_questions_iff hinvariant hshow).mpr (hrun.2 _ hshow) }

/-! ### A question without an answer -/

/-- A session that begins with a question and then asks about the questions. -/
def questionOperations (id : String) : List Operation :=
  [.replaceUnresolvedQuestionsBeforeConsent [⟨id, none, "Which path?", "A page"⟩],
    .grantConsent sampleConsent, .beginTurn ⟨100, 100, 100⟩,
    .submitTurn (.callTool .showUnresolvedQuestions)]

def questionEngine (X : AssistantExternals) (id : String) : SetupAssistantEngine :=
  runEngine X (sampleEngine sampleUrlText) (questionOperations id)

/-- **A call that nothing answers.**  The id of the question reads like a header with a key. -/
theorem markedQuestion_unanswerable :
    SetupAssistantEngine.new ⟨"session-1"⟩ ⟨"route-1"⟩ [.openAiResponses]
        [sampleItem sampleUrlText] .default = .ok (sampleEngine sampleUrlText) ∧
      Exec (Step sampleExternals) (sampleEngine sampleUrlText)
        (runEvents sampleExternals (sampleEngine sampleUrlText)
          (questionOperations "api-key:missing"))
        (questionEngine sampleExternals "api-key:missing") ∧
      (questionEngine sampleExternals "api-key:missing").state = .awaitingToolResult ∧
      ∀ callId result,
        ¬ Accepts sampleExternals (questionEngine sampleExternals "api-key:missing") callId
          result := by
  refine ⟨sampleEngine_new (by decide), exec_runEvents _ _, by decide, ?_⟩
  intro callId result haccs
  obtain ⟨_, call, hpend, _, honly, hval, _⟩ := accepts_iff.mp haccs
  have hshown : (questionEngine sampleExternals "api-key:missing").pendingTool =
      some ⟨1, .showUnresolvedQuestions⟩ := by decide
  have hids : (questionEngine sampleExternals "api-key:missing").unresolvedQuestionIds =
      ["api-key:missing"] := by decide
  cases hpend
  rw [honly rfl, hids] at hval
  have hrefused : validateStringItems sampleExternals.toDraftExternals ["api-key:missing"] ≠
      .ok () := by decide
  exact hrefused hval

/-- The sample with the JSON of the answer about one question. -/
def questionExternals : AssistantExternals :=
  { sampleExternals with
    toolResultJson := fun result =>
      if result = .unresolvedQuestions ["models-path"] then
        some ("\x7b\"type\":\"unresolved_questions\"," ++ "\"question_ids\":[\"models-path\"]\x7d")
      else none }

theorem questionExternals_lawful : questionExternals.Lawful where
  urls := sampleExternals_lawful.urls
  prompt h := by
    cases h
    simp

theorem pendingCall_answerable_question :
    Answerable questionExternals (questionEngine questionExternals "models-path") := by
  refine (pendingCall_answerable questionExternals_lawful ?_ (sampleEngine_new (by decide)) ?_
    (exec_runEvents (questionOperations "models-path") _)).2 ?_ (by decide)
  · rw [forall_mem_singleton]
    exact sampleItem_built
  · intro event hev
    simp only [runEvents, questionOperations, mem_cons, not_mem_nil, or_false] at hev
    rcases hev with rfl | rfl | rfl | rfl <;> trivial
  · refine .cons ⟨rfl, ?_⟩ (.cons ⟨rfl, ?_⟩ (.cons ⟨rfl, ?_⟩ (.cons ⟨rfl, ?_⟩ (.nil _))))
    · rintro call (h | ⟨_, h, _⟩) <;> cases h
    · rintro call (h | ⟨_, h, _⟩) <;> cases h
    · rintro call (h | ⟨_, h, _⟩) <;> cases h
    · rintro call (h | ⟨_, h, _⟩)
      · cases h
        exact ⟨by decide, _, rfl, by decide, by decide, by decide⟩
      · cases h

end LorePia.Assistant
