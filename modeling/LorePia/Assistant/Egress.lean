import LorePia.Assistant.Restore

namespace LorePia.Assistant

open List

open Lib Lib.Stateful
open Discovery (DiscoverySessionId StableId)

/-!
# What leaves a session and what it costs

A run is read through its labels: the turns begun, the calls executed, the results accepted and
the retries approved.

* `Accounts` — the usage of the engine is what the labels so far add up to;
* `Calls` — the ids of the calls count up from 1, and no call is answered twice;
* `Grants` — an engine that has consent was granted it, for the origins of all its evidence;
* `stopped_of_exec` — an engine whose turn broke stays stopped until a retry;
* `reachable_egress` — all of it, for every run of a constructed engine.

A session restored from an earlier snapshot continues the run that the snapshot was taken in.
-/

variable {prompt : AssistantPromptPackage} {consent : AssistantConsent} {m : SetupAssistantEngine}
  {error : AssistantError} {call : AssistantToolCall} {origins : List String}
  {sessionId : DiscoverySessionId}

/-! ### What the labels show -/

def Operation.estimate : Operation → Option AssistantCallEstimate
  | .beginTurn estimate => some estimate
  | _ => none

def Operation.answer : Operation → Option (Nat × AssistantToolResult)
  | .submitToolResult callId result => some (callId, result)
  | _ => none

/-- The session of a retry that the user approved. -/
def Operation.retry : Operation → Option DiscoverySessionId
  | .approveRetry sessionId true | .restartAfterInterruption sessionId true => some sessionId
  | _ => none

/-- A turn begun: its estimate and the prompt that was returned. -/
def Event.begun : Event → Option (AssistantCallEstimate × AssistantPromptPackage)
  | .call operation (.ok (.prompt prompt)) => operation.estimate.map fun estimate =>
    (estimate, prompt)
  | _ => none

/-- A call that the host is to execute. -/
def Event.executed : Event → Option (Nat × AssistantToolCall)
  | .call _ (.ok (.action (.executeTool _ callId toolCall))) => some (callId, toolCall)
  | _ => none

/-- An accepted result. -/
def Event.answered : Event → Option (Nat × AssistantToolResult)
  | .call operation (.ok .done) => operation.answer
  | _ => none

/-- The session of an approved retry. -/
def Event.retried : Event → Option DiscoverySessionId
  | .call operation (.ok .done) => operation.retry
  | _ => none

def turnsOf (events : List Event) : List (AssistantCallEstimate × AssistantPromptPackage) :=
  events.filterMap Event.begun

def callsOf (events : List Event) : List (Nat × AssistantToolCall) :=
  events.filterMap Event.executed

def answersOf (events : List Event) : List (Nat × AssistantToolResult) :=
  events.filterMap Event.answered

def retriesOf (events : List Event) : List DiscoverySessionId :=
  events.filterMap Event.retried

variable (X : AssistantExternals)

/-- The bytes of a prompt and of the schema sent with it. -/
def promptSize (prompt : AssistantPromptPackage) : Nat :=
  (X.promptJson prompt).elim 0 List.length +
    (X.schemaJson prompt.allowedApiFamilies).elim 0 List.length

/-- What the turns, calls and retries of some events add up to, with the evidence there is. -/
def totals (evidence : List RedactedAssistantEvidence) (events : List Event) :
    AssistantBudgetUsage where
  evidenceBytes := evidenceSize evidence
  promptBytes := ((turnsOf events).map fun turn => promptSize X turn.2).sum
  reservedInputTokens := ((turnsOf events).map fun turn => turn.1.inputTokens).sum
  reservedOutputTokens := ((turnsOf events).map fun turn => turn.1.maximumOutputTokens).sum
  reservedCostMicroUnits := ((turnsOf events).map fun turn => turn.1.maximumCostMicroUnits).sum
  toolCalls := (callsOf events).length
  turns := (turnsOf events).length
  retries := (retriesOf events).length

structure AssistantBudgetUsage.Within (usage : AssistantBudgetUsage) (budget : AssistantBudget) :
    Prop where
  evidenceBytes : usage.evidenceBytes ≤ budget.maxEvidenceBytes
  promptBytes : usage.promptBytes ≤ budget.maxPromptBytes
  inputTokens : usage.reservedInputTokens ≤ budget.maxInputTokens
  outputTokens : usage.reservedOutputTokens ≤ budget.maxOutputTokens
  cost : usage.reservedCostMicroUnits ≤ budget.maxCostMicroUnits
  toolCalls : usage.toolCalls ≤ budget.maxToolCalls
  turns : usage.turns ≤ budget.maxTurns
  retries : usage.retries ≤ budget.maxRetries

/-- The consent names exactly the session, the route, the evidence and the origins of an engine. -/
structure AssistantConsent.Names (R : RedactionExternals) (consent : AssistantConsent)
    (e : SetupAssistantEngine) : Prop where
  allows : consent.allowDocumentEgress = true
  session : consent.sessionId = e.sessionId
  route : consent.assistantRouteId = e.assistantRouteId
  evidence : ∀ id, id ∈ consent.approvedEvidenceIds ↔
    id ∈ e.evidence.map RedactedAssistantEvidence.id
  origins : ∀ origin, origin ∈ consent.approvedSourceOrigins ↔
    ∃ item ∈ e.evidence, sourceOrigin R item.sourceUrl = .ok origin

/-- All the evidence comes from origins that the consent approved. -/
def AssistantConsent.Covers (R : RedactionExternals) (consent : AssistantConsent)
    (evidence : List RedactedAssistantEvidence) : Prop :=
  ∀ item ∈ evidence, ∃ origin ∈ consent.approvedSourceOrigins,
    sourceOrigin R item.sourceUrl = .ok origin

/-- An event after which there is no turn without the user's approval: the turn failed, was
    interrupted or rejected, or its draft is to be revised. -/
inductive Breaks (m : SetupAssistantEngine) : Event → Prop
  | failed {kind : AssistantFailureKind} {retryable : Bool} :
      Breaks m (.call (.recordFailure kind retryable) (.ok .done))
  | interrupted : Breaks m (.call .markInterrupted (.ok .done))
  | rejected {operation : Operation} {error : AssistantError}
      (submission : operation.isSubmission = true) (state : m.state = .awaitingAssistant) :
      Breaks m (.call operation (.error error))
  | revised : Breaks m (.call .requestDraftRevision (.ok .done))

variable {X} {e e' start : SetupAssistantEngine} {events : List Event} {event : Event}
  {operation : Operation}

/-! ### Steps that leave a label silent -/

/-- Nothing that is counted happens. -/
structure Event.Silent (event : Event) : Prop where
  begun : event.begun = none
  executed : event.executed = none
  answered : event.answered = none
  retried : event.retried = none

theorem silent_error : (Event.call operation (.error error)).Silent :=
  ⟨rfl, rfl, rfl, rfl⟩

theorem silent_restored : Event.restored.Silent := ⟨rfl, rfl, rfl, rfl⟩

section

theorem totals_concat (hbegun : event.begun = none) (hexec : event.executed = none)
    (hret : event.retried = none) :
    totals X evidence (events ++ [event]) = totals X evidence events := by
  simp [totals, turnsOf, callsOf, retriesOf, hbegun, hexec, hret]

theorem totals_begun {estimate : AssistantCallEstimate}
    (hbegun : event.begun = some (estimate, prompt)) (hexec : event.executed = none)
    (hret : event.retried = none) :
    totals X evidence (events ++ [event]) =
      { totals X evidence events with
        promptBytes := (totals X evidence events).promptBytes + promptSize X prompt
        turns := (totals X evidence events).turns + 1
        reservedInputTokens :=
          (totals X evidence events).reservedInputTokens + estimate.inputTokens
        reservedOutputTokens :=
          (totals X evidence events).reservedOutputTokens + estimate.maximumOutputTokens
        reservedCostMicroUnits :=
          (totals X evidence events).reservedCostMicroUnits + estimate.maximumCostMicroUnits } := by
  simp [totals, turnsOf, callsOf, retriesOf, hbegun, hexec, hret]

theorem totals_executed {call : Nat × AssistantToolCall} (hbegun : event.begun = none)
    (hexec : event.executed = some call) (hret : event.retried = none) :
    totals X evidence (events ++ [event]) =
      { totals X evidence events with
        toolCalls := (totals X evidence events).toolCalls + 1 } := by
  simp [totals, turnsOf, callsOf, retriesOf, hbegun, hexec, hret]

theorem totals_retried (hbegun : event.begun = none)
    (hexec : event.executed = none) (hret : event.retried = some sessionId) :
    totals X evidence (events ++ [event]) =
      { totals X evidence events with retries := (totals X evidence events).retries + 1 } := by
  simp [totals, turnsOf, callsOf, retriesOf, hbegun, hexec, hret]

end

/-- A failure changes what may follow and nothing that is counted. -/
theorem transitionAfterFailure_eq (e : SetupAssistantEngine) (kind : AssistantFailureKind)
    (retryable : Bool) : ∃ questions retry state,
      (state = .awaitingRetryConsent ∨ state = .failed) ∧ e.transitionAfterFailure kind retryable =
          { e with unresolvedQuestions := questions, pendingRetry := retry, state := state } := by
  unfold SetupAssistantEngine.transitionAfterFailure
  split
  · exact ⟨_, _, _, .inl rfl, rfl⟩
  · exact ⟨_, _, _, .inr rfl, rfl⟩

/-! ### Accounts -/

/-- The usage is what the events add up to, and it is within the budget. -/
structure Accounts (X : AssistantExternals) (e : SetupAssistantEngine) (events : List Event) :
    Prop where
  usage : e.usage = totals X e.evidence events
  within : e.usage.Within e.budget

theorem Accounts.silent (h : Accounts X e events) (hbegun : event.begun = none)
    (hexec : event.executed = none) (hret : event.retried = none)
    (husage : e'.usage = e.usage) (hevid : e'.evidence = e.evidence)
    (hbud : e'.budget = e.budget) : Accounts X e' (events ++ [event]) where
  usage := by
    rw [totals_concat hbegun hexec hret, husage, hevid]
    exact h.usage
  within := by
    rw [husage, hbud]
    exact h.within

theorem promptBytes_ok (h : promptBytes X prompt = .ok n) : promptSize X prompt = n := by
  obtain ⟨package, hpackage, schema, hschema, h⟩ := steps₂ h
  rw [promptSize, okOr_ok.mp hpackage, okOr_ok.mp hschema]
  exact (okOr_checkedAdd_ok h).symm

/-- **Every effect is charged.** -/
theorem Effect.accounts (heff : Effect X e operation response e') (h : Accounts X e events) :
    Accounts X e' (events ++ [.call operation (.ok response)]) := by
  have hwithin := h.within
  have husage := h.usage
  cases heff with
  | @addEvidence item _ _ _ _ _ _ _ _ hitem htotal hbdd =>
    obtain ⟨rfl, _⟩ := evidenceItemBytes_eq_some.mp hitem
    obtain ⟨_, rfl⟩ := checkedAdd_eq_some.mp htotal
    have hsize : evidenceSize (sortByKey RedactedAssistantEvidence.key (e.evidence ++ [item])) =
        e.usage.evidenceBytes + itemSize item := by
      rw [evidenceSize_of_perm (perm_sortByKey _ _), evidenceSize_append_singleton, husage]
      rfl
    refine ⟨?_, { hwithin with evidenceBytes := hbdd }⟩
    rw [totals_concat rfl rfl rfl]
    show { e.usage with evidenceBytes := e.usage.evidenceBytes + itemSize item } = _
    rw [← hsize, husage]
    rfl
  | beginTurn _ _ _ _ _ hbytes hprompt hturns hinput hout hcost =>
    obtain rfl := promptBytes_ok hbytes
    refine ⟨?_, { hwithin with
      promptBytes := hprompt, turns := hturns, inputTokens := hinput
      outputTokens := hout, cost := hcost }⟩
    rw [totals_begun rfl rfl rfl, ← husage]
  | callTool _ _ _ _ hmax =>
    refine ⟨?_, { hwithin with toolCalls := hmax }⟩
    rw [totals_executed rfl rfl rfl, ← husage]
  | approveRetry _ _ hmax =>
    refine ⟨?_, { hwithin with retries := hmax }⟩
    rw [totals_retried rfl rfl rfl, ← husage]
  | restart _ _ hmax =>
    refine ⟨?_, { hwithin with retries := hmax }⟩
    rw [totals_retried rfl rfl rfl, ← husage]
  | @recordFailure kind retryable _ =>
    obtain ⟨_, _, _, _, heq⟩ := transitionAfterFailure_eq e.endCall kind retryable
    rw [heq]
    exact h.silent rfl rfl rfl rfl rfl rfl
  | _ => exact h.silent rfl rfl rfl rfl rfl rfl

/-! ### Calls -/

/-- Calls are numbered from 1; the pending one has no answer yet, and none has two. -/
structure Calls (nextCallId : Nat) (pendingTool : Option PendingTool) (events : List Event) :
    Prop where
  next : nextCallId = (callsOf events).length + 1
  numbered : (callsOf events).map Prod.fst = List.range' 1 (callsOf events).length
  pending : ∀ pending ∈ pendingTool, (pending.callId, pending.call) ∈ callsOf events ∧
    pending.callId ∉ (answersOf events).map Prod.fst
  answered : ∀ answer ∈ answersOf events, answer.1 < nextCallId
  once : ((answersOf events).map Prod.fst).Nodup

section

theorem callsOf_concat_of_none (h : event.executed = none) :
    callsOf (events ++ [event]) = callsOf events := by
  simp [callsOf, h]

theorem answersOf_concat_of_none (h : event.answered = none) :
    answersOf (events ++ [event]) = answersOf events := by
  simp [answersOf, h]

theorem Calls.silent (h : Calls nextCallId pendingTool events) (hexec : event.executed = none)
    (hanswered : event.answered = none) (hpend : pendingTool' = pendingTool ∨ pendingTool' = none) :
    Calls nextCallId pendingTool' (events ++ [event]) := by
  have hcalls : callsOf (events ++ [event]) = callsOf events := callsOf_concat_of_none hexec
  have hanswers : answersOf (events ++ [event]) = answersOf events :=
    answersOf_concat_of_none hanswered
  constructor
  · rw [hcalls]
    exact h.next
  · rw [hcalls]
    exact h.numbered
  · intro pending hmem
    rw [hcalls, hanswers]
    rcases hpend with rfl | rfl
    · exact h.pending pending hmem
    · cases hmem
  · rw [hanswers]
    exact h.answered
  · rw [hanswers]
    exact h.once

/-- The next call is executed. -/
theorem Calls.execute (h : Calls nextCallId pendingTool events)
    (hexec : event.executed = some (nextCallId, call)) (hanswered : event.answered = none) :
    Calls (nextCallId + 1) (some ⟨nextCallId, call⟩) (events ++ [event]) := by
  have hcalls : callsOf (events ++ [event]) = callsOf events ++ [(nextCallId, call)] := by
    simp [callsOf, hexec]
  have hanswers : answersOf (events ++ [event]) = answersOf events :=
    answersOf_concat_of_none hanswered
  constructor
  · rw [hcalls, length_append, length_singleton, ← h.next]
  · rw [hcalls, map_append, map_singleton, length_append, length_singleton,
      range'_concat, h.numbered, h.next]
    simp [Nat.add_comm]
  · rintro pending hmem
    obtain rfl := Option.mem_some.mp hmem
    rw [hcalls, hanswers]
    refine ⟨mem_concat_self, fun hanswer => ?_⟩
    obtain ⟨answer, hmem, heq⟩ := mem_map.mp hanswer
    have hlt := h.answered answer hmem
    exact absurd heq hlt.ne
  · rw [hanswers]
    intro answer hmem
    have hlt := h.answered answer hmem
    omega
  · rw [hanswers]
    exact h.once

/-- The pending call is answered. -/
theorem Calls.answer {result : AssistantToolResult}
    (h : Calls nextCallId (some ⟨callId, call⟩) events) (hexec : event.executed = none)
    (hanswered : event.answered = some (callId, result)) :
    Calls nextCallId none (events ++ [event]) := by
  have hcalls : callsOf (events ++ [event]) = callsOf events := callsOf_concat_of_none hexec
  have hanswers : answersOf (events ++ [event]) = answersOf events ++ [(callId, result)] := by
    simp [answersOf, hanswered]
  obtain ⟨hcall, hfresh⟩ := h.pending _ (Option.mem_some.mpr rfl)
  constructor
  · rw [hcalls]
    exact h.next
  · rw [hcalls]
    exact h.numbered
  · intro pending hmem
    cases hmem
  · rw [hanswers]
    intro answer hmem
    rcases mem_append.mp hmem with hmem | hmem
    · exact h.answered answer hmem
    · obtain rfl := mem_singleton.mp hmem
      have hid : callId ∈ List.range' 1 (callsOf events).length := by
        rw [← h.numbered]
        exact mem_map_of_mem hcall
      have hnext := h.next
      rw [mem_range'_1] at hid
      show callId < nextCallId
      omega
  · rw [hanswers, map_append, map_singleton]
    exact List.Nodup.append h.once (nodup_singleton _) (disjoint_singleton.mpr hfresh)

end

theorem Effect.calls (heff : Effect X e operation response e')
    (h : Calls e.nextCallId e.pendingTool events) :
    Calls e'.nextCallId e'.pendingTool (events ++ [.call operation (.ok response)]) := by
  cases heff with
  | callTool => exact h.execute rfl rfl
  | submitToolResult _ hpend =>
    rw [hpend] at h
    exact h.answer rfl rfl
  | markInterrupted => exact h.silent rfl rfl (.inr rfl)
  | cancel => exact h.silent rfl rfl (.inr rfl)
  | @recordFailure kind retryable _ =>
    obtain ⟨_, _, _, _, heq⟩ := transitionAfterFailure_eq e.endCall kind retryable
    rw [heq]
    exact h.silent rfl rfl (.inl rfl)
  | _ => exact h.silent rfl rfl (.inl rfl)

/-! ### Consent -/

/-- Until consent is granted the evidence is that of the start; consent that is there was granted
    for what the engine was started with, and it covers all the evidence there is. -/
structure Grants (X : AssistantExternals) (start e : SetupAssistantEngine) (events : List Event) :
    Prop where
  awaiting : e.state = .awaitingConsent → e.evidence = start.evidence
  granted : e.consented = true → ∃ consent, .call (.grantConsent consent) (.ok .done) ∈ events ∧
      consent.Names X.toRedactionExternals start ∧
      consent.Covers X.toRedactionExternals e.evidence ∧
      ∀ origin ∈ e.approvedOrigins, origin ∈ consent.approvedSourceOrigins

/-- The session, the route and the budget are those of the start. -/
structure SetupAssistantEngine.Continues (start e : SetupAssistantEngine) : Prop where
  session : e.sessionId = start.sessionId
  route : e.assistantRouteId = start.assistantRouteId
  budget : e.budget = start.budget

theorem Grants.silent (h : Grants X start e events) (hconsented : e'.consented = e.consented)
    (hevid : e'.evidence = e.evidence) (horigs : e'.approvedOrigins = e.approvedOrigins)
    (hst : e'.state = .awaitingConsent → e.state = .awaitingConsent) :
    Grants X start e' (events ++ [event]) where
  awaiting hawait := by
    rw [hevid]
    exact h.awaiting (hst hawait)
  granted hgranted := by
    rw [hconsented] at hgranted
    obtain ⟨consent, hmem, hnames, hcovers, hincluded⟩ := h.granted hgranted
    rw [hevid, horigs]
    exact ⟨consent, mem_append_left _ hmem, hnames, hcovers, hincluded⟩

/-- Evidence from an approved origin is covered by the consent. -/
theorem Grants.add (h : Grants X start e events) {origin : String}
    (hsrc : sourceOrigin X.toRedactionExternals item.sourceUrl = .ok origin)
    (happr : origin ∈ e.approvedOrigins) (hconsented : e'.consented = e.consented)
    (hevid : ∀ other ∈ e'.evidence, other ∈ e.evidence ∨ other = item)
    (horigs : e'.approvedOrigins = e.approvedOrigins) (hst : e'.state ≠ .awaitingConsent) :
    Grants X start e' (events ++ [event]) where
  awaiting hawait := absurd hawait hst
  granted hgranted := by
    rw [hconsented] at hgranted
    obtain ⟨consent, hmem, hnames, hcovers, hincluded⟩ := h.granted hgranted
    rw [horigs]
    refine ⟨consent, mem_append_left _ hmem, hnames, fun other hoth => ?_, hincluded⟩
    rcases hevid other hoth with hold | rfl
    · exact hcovers other hold
    · exact ⟨origin, hincluded origin happr, hsrc⟩

/-- A consent that is granted names what the engine is about. -/
theorem names_of_grant
    (hallows : consent.allowDocumentEgress = true) (hsess : consent.sessionId = e.sessionId)
    (hrt : consent.assistantRouteId = e.assistantRouteId)
    (hids : canonical StableId.val consent.approvedEvidenceIds =
      e.evidence.map RedactedAssistantEvidence.id)
    (hexp : evidenceOrigins X.toRedactionExternals e.evidence = .ok origins)
    (happr : canonical id consent.approvedSourceOrigins = origins) :
    consent.Names X.toRedactionExternals e := by
  have hmem (origin : String) : origin ∈ consent.approvedSourceOrigins ↔ origin ∈ origins := by
    rw [← happr, mem_canonical]
  obtain ⟨hitems, horigs, _⟩ := evidenceOrigins_ok hexp
  exact
    { allows := hallows
      session := hsess
      route := hrt
      evidence := fun id => by rw [← hids, mem_canonical]
      origins := fun origin => by
        rw [hmem]
        constructor
        · exact horigs origin
        · rintro ⟨item, hitem, hsrc⟩
          obtain ⟨origin', horig', hsrc'⟩ := hitems item hitem
          rw [hsrc] at hsrc'
          exact Except.ok.inj hsrc' ▸ horig' }

theorem AssistantConsent.Names.covers (h : consent.Names X.toRedactionExternals e)
    (hexp : evidenceOrigins X.toRedactionExternals e.evidence = .ok origins) :
    consent.Covers X.toRedactionExternals e.evidence := by
  intro item hitem
  obtain ⟨origin, _, hsrc⟩ := (evidenceOrigins_ok hexp).1 item hitem
  exact ⟨origin, (h.origins origin).mpr ⟨item, hitem, hsrc⟩, hsrc⟩

theorem AssistantConsent.Names.of_continues
    (h : consent.Names X.toRedactionExternals e) (hconts : start.Continues e)
    (hevid : e.evidence = start.evidence) : consent.Names X.toRedactionExternals start where
  allows := h.allows
  session := h.session.trans hconts.session
  route := h.route.trans hconts.route
  evidence := hevid ▸ h.evidence
  origins := hevid ▸ h.origins

theorem Effect.grants (heff : Effect X e operation response e')
    (hconts : start.Continues e) (h : Grants X start e events) :
    Grants X start e' (events ++ [.call operation (.ok response)]) := by
  cases heff with
  | replaceQuestions hst => exact h.silent rfl rfl rfl id
  | @grantConsent consent _ hst hallows hsess hrt hids hexp happr =>
    have hnames := names_of_grant hallows hsess hrt hids hexp happr
    refine ⟨fun hawait => by simp at hawait, fun _ => ⟨consent, ?_, ?_, ?_, ?_⟩⟩
    · exact mem_concat_self
    · exact hnames.of_continues hconts (h.awaiting hst)
    · exact hnames.covers hexp
    · intro origin horig
      rw [← happr, mem_canonical] at horig
      exact horig
  | addEvidence hst _ hsrc happr =>
    refine h.add hsrc happr rfl (fun other hoth => ?_) rfl ?_
    · rw [mem_sortByKey, mem_append, mem_singleton] at hoth
      exact hoth
    · rcases hst with hst | hst <;> simp [hst]
  | @recordFailure kind retryable _ =>
    obtain ⟨_, _, _, hst, heq⟩ := transitionAfterFailure_eq e.endCall kind retryable
    rw [heq]
    refine h.silent rfl rfl rfl fun hawait => ?_
    rcases hst with rfl | rfl <;> cases hawait
  | _ => exact h.silent rfl rfl rfl fun hawait => by cases hawait

theorem Effect.continues (heff : Effect X e operation response e')
    (h : start.Continues e) : start.Continues e' := by
  cases heff with
  | @recordFailure kind retryable _ =>
    obtain ⟨_, _, _, _, heq⟩ := transitionAfterFailure_eq e.endCall kind retryable
    rw [heq]
    exact ⟨h.session, h.route, h.budget⟩
  | _ => exact ⟨h.session, h.route, h.budget⟩

/-! ### Stopped engines -/

/-- No turn is begun from here before a retry. -/
def AssistantState.Stopped (state : AssistantState) : Prop :=
  state = .awaitingRetryConsent ∨ state = .interrupted ∨ state = .failed ∨ state = .cancelled

theorem stopped_transitionAfterFailure (e : SetupAssistantEngine) (kind : AssistantFailureKind)
    (retryable : Bool) : (e.transitionAfterFailure kind retryable).state.Stopped := by
  obtain ⟨_, _, _, hst, heq⟩ := transitionAfterFailure_eq e kind retryable
  rw [heq]
  rcases hst with rfl | rfl
  · exact .inl rfl
  · exact .inr (.inr (.inl rfl))

/-- **A stopped engine stays stopped** until a retry of its session. -/
theorem Effect.stopped (heff : Effect X e operation response e') (h : e.state.Stopped) :
    e'.state.Stopped ∨ operation.retry = some e.sessionId ∧ response = .done := by
  cases heff with
  | recordFailure _ => exact .inl (stopped_transitionAfterFailure _ _ _)
  | approveRetry _ hsess => exact .inr ⟨congrArg some hsess, rfl⟩
  | restart _ hsess => exact .inr ⟨congrArg some hsess, rfl⟩
  | markInterrupted => exact .inl (.inr (.inl rfl))
  | cancel => exact .inl (.inr (.inr (.inr rfl)))
  | requestRevision => exact .inl (.inl rfl)
  | addEvidence => exact .inl h
  | replaceQuestions => exact .inl h
  | grantConsent hst | beginTurn hst | callTool _ hst | submitDraft _ hst
  | needMoreEvidence _ hst | submitToolResult hst | continueAfterMoreEvidence hst =>
    rw [hst] at h
    simp [AssistantState.Stopped] at h

/-! ### Every run -/

/-- While the assistant is awaited, its output is reserved. -/
def SetupAssistantEngine.Reserved (e : SetupAssistantEngine) : Prop :=
  e.state = .awaitingAssistant → e.pendingMaximumOutputTokens.isSome = true

theorem Effect.reserved (heff : Effect X e operation response e') (h : e.Reserved) :
    e'.Reserved := by
  cases heff with
  | addEvidence | replaceQuestions => exact h
  | beginTurn => exact fun _ => rfl
  | @recordFailure kind retryable _ =>
    obtain ⟨_, _, _, hst, heq⟩ := transitionAfterFailure_eq e.endCall kind retryable
    rw [heq]
    intro hawait
    rcases hst with rfl | rfl <;> cases hawait
  | _ => exact fun hawait => by cases hawait

/-- What the events of a session say about the engine they lead to. -/
structure Watched (X : AssistantExternals) (start e : SetupAssistantEngine) (events : List Event) :
    Prop where
  continues : start.Continues e
  accounts : Accounts X e events
  calls : Calls e.nextCallId e.pendingTool events
  grants : Grants X start e events
  reserved : e.Reserved

section

variable (h : Watched X start e events)
include h

theorem Watched.effect (heff : Effect X e operation response e') :
    Watched X start e' (events ++ [.call operation (.ok response)]) where
  continues := heff.continues h.continues
  accounts := heff.accounts h.accounts
  calls := heff.calls h.calls
  grants := heff.grants h.continues h.grants
  reserved := heff.reserved h.reserved

/-- Silent events that leave the engine as it is. -/
theorem Watched.silent (hsil : event.Silent) :
    Watched X start e (events ++ [event]) where
  continues := h.continues
  accounts := h.accounts.silent hsil.begun hsil.executed hsil.retried rfl rfl rfl
  calls := h.calls.silent hsil.executed hsil.answered (.inl rfl)
  grants := h.grants.silent rfl rfl rfl id
  reserved := h.reserved

/-- A turn that is rejected. -/
theorem Watched.reject (hsil : event.Silent) :
    Watched X start e.reject (events ++ [event]) := by
  obtain ⟨_, _, _, hst, heq⟩ := transitionAfterFailure_eq e.endCall .invalidStructuredOutput true
  rw [SetupAssistantEngine.reject, heq]
  exact
    { continues := ⟨h.continues.session, h.continues.route, h.continues.budget⟩
      accounts :=
        h.accounts.silent hsil.begun hsil.executed hsil.retried rfl rfl rfl
      calls := h.calls.silent hsil.executed hsil.answered (.inl rfl)
      grants := h.grants.silent rfl rfl rfl fun hawait => by
        rcases hst with rfl | rfl <;> cases hawait
      reserved := fun hawait => by rcases hst with rfl | rfl <;> cases hawait }

theorem Watched.step (hstep : Step X e event e') :
    Watched X start e' (events ++ [event]) := by
  cases event with
  | restored =>
    rw [fromSnapshot_snapshot_eq hstep]
    exact h.silent silent_restored
  | call operation outcome =>
    cases outcome with
    | ok response => exact h.effect (effect_of_run hstep)
    | error error =>
      rcases failed_run hstep with ⟨rfl, _⟩ | ⟨_, _, rfl⟩
      · exact h.silent silent_error
      · exact h.reject silent_error

end

theorem new_watched
    (h : SetupAssistantEngine.new sessionId routeId families evidence budget = .ok start) :
    Watched X start start [] := by
  obtain ⟨_, _, _, h⟩ := rest₃ h
  obtain ⟨_, _, _, h⟩ := rest₃ h
  obtain ⟨bytes, htotal, hbdd, h⟩ := step_guard h
  obtain ⟨hsize, _⟩ := assistantEvidenceBytes_eq_some.mp (okOr_ok.mp htotal)
  cases pure_inj h
  refine
    { continues := ⟨rfl, rfl, rfl⟩
      accounts := ⟨by rw [← hsize]; rfl, ?_⟩
      calls := ⟨rfl, rfl, by simp, by simp [answersOf], nodup_nil⟩
      grants := ⟨fun _ => rfl, fun h => by cases h⟩
      reserved := fun h => by cases h }
  exact ⟨hbdd, Nat.zero_le _, Nat.zero_le _, Nat.zero_le _, Nat.zero_le _, Nat.zero_le _,
    Nat.zero_le _, Nat.zero_le _⟩

theorem watched_of_exec (hstart : Watched X start start [])
    (h : Exec (Step X) start events e) : Watched X start e events :=
  h.history (P := fun events e => Watched X start e events) hstart
    fun _ _ _ _ _ hwatched hstep => hwatched.step hstep

/-- **No turn without a retry**: an engine that is stopped stays so until its session is
    retried. -/
theorem stopped_of_exec (h : Exec (Step X) m events e)
    (hstopped : m.state.Stopped) (hretry : m.sessionId ∉ retriesOf events) : e.state.Stopped := by
  have hlabels : ∀ event ∈ events, event.retried ≠ some m.sessionId := by
    intro event hmem hret
    exact hretry (mem_filterMap.mpr ⟨event, hmem, hret⟩)
  have hfinal : m.Continues e ∧ e.state.Stopped := by
    refine h.invariant_of_labels (I := fun e => m.Continues e ∧ e.state.Stopped) ?_ hlabels
      ⟨⟨rfl, rfl, rfl⟩, hstopped⟩
    rintro e event e' ⟨hconts, hstopped⟩ hret hstep
    cases event with
    | restored =>
      rw [fromSnapshot_snapshot_eq hstep]
      exact ⟨hconts, hstopped⟩
    | call operation outcome =>
      cases outcome with
      | ok response =>
        have heff := effect_of_run hstep
        refine ⟨heff.continues hconts, ?_⟩
        rcases heff.stopped hstopped with h | ⟨hsess, rfl⟩
        · exact h
        · rw [hconts.session] at hsess
          exact absurd hsess hret
      | error error =>
        rcases failed_run hstep with ⟨rfl, _⟩ | ⟨_, hst, _⟩
        · exact ⟨hconts, hstopped⟩
        · rw [hst] at hstopped
          simp [AssistantState.Stopped] at hstopped
  exact hfinal.2

/-- A submission that fails while its output is awaited is a rejected turn. -/
theorem rejected_of_step (hreserved : e.Reserved) (hsubm : operation.isSubmission = true)
    (hst : e.state = .awaitingAssistant) (hstep : Step X e (.call operation (.error error)) m) :
    m = e.reject := by
  rcases failed_run hstep with ⟨_, hunr⟩ | ⟨_, _, hreject⟩
  · rcases hunr hsubm with hunr | hnone
    · exact absurd hst hunr
    · have hsome := hreserved hst
      rw [hnone] at hsome
      cases hsome
  · exact hreject

/-- A broken turn stops the engine. -/
theorem stopped_of_breaks (hreserved : e.Reserved)
    (hbreaks : Breaks e event) (hstep : Step X e event m) : m.state.Stopped := by
  cases hbreaks with
  | failed =>
    cases effect_of_run hstep
    exact stopped_transitionAfterFailure _ _ _
  | interrupted =>
    cases effect_of_run hstep
    exact .inr (.inl rfl)
  | rejected hsubm hst =>
    rw [rejected_of_step hreserved hsubm hst hstep]
    exact stopped_transitionAfterFailure _ _ _
  | revised =>
    cases effect_of_run hstep
    exact .inl rfl

/-- What the user's consent bounds, in a run from `start` to `e`. -/
structure Egress (X : AssistantExternals) (start : SetupAssistantEngine) (events : List Event)
    (e : SetupAssistantEngine) : Prop where
  /-- A turn is begun only after a consent that named the engine and covers the prompt. -/
  consented : ∀ {estimate prompt e'},
    Step X e (.call (.beginTurn estimate) (.ok (.prompt prompt))) e' →
      ∃ consent, .call (.grantConsent consent) (.ok .done) ∈ events ∧
        consent.Names X.toRedactionExternals start ∧
        consent.Covers X.toRedactionExternals prompt.evidence
  /-- The bytes of a prompt that is returned are known. -/
  measured : ∀ {estimate prompt e'},
    Step X e (.call (.beginTurn estimate) (.ok (.prompt prompt))) e' →
      promptBytes X prompt = .ok (promptSize X prompt)
  spent : (totals X e.evidence events).Within start.budget
  numbered : (callsOf events).map Prod.fst = List.range' 1 (callsOf events).length
  once : ((answersOf events).map Prod.fst).Nodup
  /-- A result is accepted only for a call of its kind that was executed. -/
  matching : ∀ {callId result e'},
    Step X e (.call (.submitToolResult callId result) (.ok .done)) e' →
      ∃ call, (callId, call) ∈ callsOf events ∧ toolResultMatches call result = true
  /-- Since the last turn that broke, its session was retried. -/
  retried : ∀ {before event since m estimate prompt e'}, events = before ++ event :: since →
    Exec (Step X) start before m → Breaks m event →
    Step X e (.call (.beginTurn estimate) (.ok (.prompt prompt))) e' →
      start.sessionId ∈ retriesOf since
  /-- A failure changes nothing, except that an output that was awaited is rejected. -/
  failed : ∀ {operation error e'}, Step X e (.call operation (.error error)) e' →
    if operation.isSubmission = true ∧ e.state = .awaitingAssistant then
      e' = e.reject ∧ (e'.state = .awaitingRetryConsent ∨ e'.state = .failed)
    else e' = e

theorem step_unique (h : Step X e event m) (h' : Step X e event m') : m = m' := by
  cases event with
  | restored => exact (fromSnapshot_snapshot_eq h).trans (fromSnapshot_snapshot_eq h').symm
  | call operation outcome => exact congrArg Prod.snd (h.symm.trans h')

/-- A turn breaks at some point of a run; the run goes on to another turn only by a retry. -/
theorem retried_of_breaks {before since : List Event} {estimate : AssistantCallEstimate}
    (hwatched : Watched X start m before) (hbreaks : Breaks m event) (hbreak : Step X m event m')
    (hconts : start.Continues m') (hsince : Exec (Step X) m' since e)
    (hbegin : Step X e (.call (.beginTurn estimate) (.ok (.prompt prompt))) e') :
    start.sessionId ∈ retriesOf since := by
  by_contra hretry
  rw [← hconts.session] at hretry
  have hbroken := stopped_of_breaks hwatched.reserved hbreaks hbreak
  have hstopped := stopped_of_exec hsince hbroken hretry
  cases effect_of_run hbegin with
  | beginTurn hst =>
    rw [hst] at hstopped
    simp [AssistantState.Stopped] at hstopped

theorem failed_of_step (hreserved : e.Reserved)
    (hstep : Step X e (.call operation (.error error)) e') :
    if operation.isSubmission = true ∧ e.state = .awaitingAssistant then
      e' = e.reject ∧ (e'.state = .awaitingRetryConsent ∨ e'.state = .failed)
    else e' = e := by
  split
  · rename_i h
    obtain rfl := rejected_of_step hreserved h.1 h.2 hstep
    obtain ⟨_, _, _, hst, heq⟩ := transitionAfterFailure_eq e.endCall .invalidStructuredOutput true
    refine ⟨rfl, ?_⟩
    rw [SetupAssistantEngine.reject, heq]
    exact hst
  · rename_i h
    rcases failed_run hstep with ⟨heq, _⟩ | ⟨hsubm, hst, _⟩
    · exact heq
    · exact absurd ⟨hsubm, hst⟩ h

/-- **Egress and spending are bounded by consent**, in every run. -/
theorem reachable_egress {sessionId : DiscoverySessionId} {routeId : Discovery.ModelRouteId}
    {families : List ApiFamily} {evidence : List RedactedAssistantEvidence}
    {budget : AssistantBudget}
    (hnew : SetupAssistantEngine.new sessionId routeId families evidence budget = .ok start)
    (h : Exec (Step X) start events e) : Egress X start events e := by
  have hstart : Watched X start start [] := new_watched hnew
  have hwatched := watched_of_exec hstart h
  refine
    { consented := fun hbegin => ?_
      measured := fun hbegin => ?_
      spent := ?_
      numbered := hwatched.calls.numbered
      once := hwatched.calls.once
      matching := fun hanswer => ?_
      retried := ?_
      failed := failed_of_step hwatched.reserved }
  · cases effect_of_run hbegin with
    | beginTurn _ hconsented _ _ hpackage =>
      obtain ⟨consent, hmem, hnames, hcovers, _⟩ := hwatched.grants.granted hconsented
      obtain ⟨_, _, rfl⟩ := last_step hpackage
      exact ⟨consent, hmem, hnames, hcovers⟩
  · cases effect_of_run hbegin with
    | beginTurn _ _ _ _ _ hbytes =>
      rw [promptBytes_ok hbytes]
      exact hbytes
  · rw [← hwatched.accounts.usage, ← hwatched.continues.budget]
    exact hwatched.accounts.within
  · cases effect_of_run hanswer with
    | submitToolResult _ hpend hfits => exact ⟨_, (hwatched.calls.pending _ hpend).1, hfits⟩
  · intro before event since m estimate prompt e' heq hbef hbreaks hbegin
    subst heq
    obtain ⟨m₁, m', hbef₁, hbreak, hsince⟩ := h.split_at
    obtain rfl : m₁ = m := by
      refine hbef₁.unique ?_ hbef
      exact step_unique
    have hwatched := watched_of_exec hstart hbef
    exact retried_of_breaks hwatched hbreaks hbreak (hwatched.step hbreak).continues hsince hbegin

theorem reachable_egress_sample :
    Egress sampleExternals (sampleEngine sampleUrlText)
      (runEvents sampleExternals (sampleEngine sampleUrlText) sampleOperations)
      (runEngine sampleExternals (sampleEngine sampleUrlText) sampleOperations) := by
  have hlen : byteLen sampleUrlText ≤ 100000 := by decide
  exact reachable_egress (sampleEngine_new hlen) (exec_runEvents _ _)

/-- The sample has three turns, one call with its answer, and a retry. -/
example : let events := runEvents sampleExternals (sampleEngine sampleUrlText) sampleOperations
    (turnsOf events).length = 3 ∧ (callsOf events).map Prod.fst = [1] ∧
      (answersOf events).map Prod.fst = [1] ∧ retriesOf events = [⟨"session-1"⟩] := by
  decide

end LorePia.Assistant
