import LorePia.Chat.Run

namespace LorePia.Chat

open Lib List Ensures Function ProviderEvent

/-!
# Chat — the tool protocol

What a provider has to respect so that a generation does not fail over its tool calls.  The
result is about any receiver and any credential: if the events of a provider are
well-bracketed for each call, a generation that is handed a beginning of them does not stop
with one of the four errors of the protocol (`generate_excused`), whatever else stops it.

The invariant is the life cycle alone: the sets of calls of the accumulator are the phases that
the events handed over leave (`Tracked … acc.phase`).
-/

variable {id : ToolCallId} {sent : List ProviderEvent} {usage : GenerationUsage} {error : CoreError}
  {event : ProviderEvent} {step : Except Stopped GenerationAccumulator}

/-- The errors of the tool protocol. -/
def protocolMessages : List String :=
  [ "provider reused a tool-call identifier",
    "provider sent tool-call arguments outside an active call",
    "provider completed a tool call that was not active",
    "provider generation ended with an incomplete tool call" ]

/-- A fault that is not an error of the tool protocol. -/
def ExcusedFault (fault : Fault) : Prop :=
  ∀ error, fault = .error error → error.message ∉ protocolMessages

/-- The generation did not stop over the tool protocol. -/
def Excused (stopped : Stopped) : Prop := ExcusedFault stopped.fault

theorem excusedFault_error (h : error.message ∉ protocolMessages) :
    ExcusedFault (.error error) := by
  rintro _ ⟨⟩
  exact h

theorem excusedFault_panicked : ExcusedFault .panicked := fun _ h => (nomatch h)

/-! ### What a schedule hands over -/

/-- What the loop hands to the accumulator, whether the queue is still open at its end, and
    whether a cancellation ended it. -/
structure Handover where
  events : List ProviderEvent
  providerOpen : Bool
  interrupted : Bool

def handover : List Tick → Bool → Bool → Handover
  | [], _, providerOpen => ⟨[], providerOpen, false⟩
  | .cancellationChanged cancelled :: ticks, cancellationOpen, providerOpen =>
    if cancellationOpen = true ∧ cancelled = true then ⟨[], providerOpen, true⟩
    else handover ticks cancellationOpen providerOpen
  | .cancellationClosed :: ticks, _, providerOpen => handover ticks false providerOpen
  | .event event :: ticks, cancellationOpen, true =>
    let rest := handover ticks cancellationOpen true
    { rest with events := event :: rest.events }
  | .event _ :: ticks, cancellationOpen, false => handover ticks cancellationOpen false
  | .providerClosed :: ticks, cancellationOpen, _ => handover ticks cancellationOpen false

namespace Schedule

variable (schedule : Schedule)

def loop : Handover := handover schedule.ticks true true

/-- The provider events that reach the accumulator, unless it stops before. -/
def handed : List ProviderEvent :=
  if schedule.cancelledBefore then []
  else schedule.loop.events ++ if schedule.loop.providerOpen then schedule.queued else []

/-- A cancellation was observed. -/
def interrupted : Bool := schedule.cancelledBefore || schedule.loop.interrupted

/-- The schedule runs a provider that sent `sent` and completed with `usage`: the queue hands
    the events over in order, and all of them unless the run was cancelled. -/
structure Serves (sent : List ProviderEvent) (usage : GenerationUsage) : Prop where
  result : schedule.result = .ok usage
  ordered : schedule.handed <+: sent
  complete : schedule.interrupted = false → schedule.handed = sent

end Schedule

namespace GenerationAccumulator

variable {X : ChatExternals} {acc : GenerationAccumulator}

theorem stop_excused (h : error.message ∉ protocolMessages) :
    Excused (acc.stop error) :=
  excusedFault_error h

theorem lift_excused {α : Type} {Q : α → Prop} {step : Except Fault α}
    (h : Ensures Q ExcusedFault step) : Ensures Q Excused (acc.lift step) := by
  cases step with
  | ok value => exact h
  | error fault => exact h

/-! ### Operations that leave the calls alone -/

/-- The step ends with the calls as they were, or stops for another reason. -/
def KeepsCalls (acc : GenerationAccumulator) (step : Except Stopped GenerationAccumulator) :
    Prop :=
  Ensures (fun acc' => acc'.phase = acc.phase) Excused step

theorem KeepsCalls.done (h : acc'.phase = acc.phase) :
    KeepsCalls acc (.ok acc') := h

/-- One step after another. -/
theorem KeepsCalls.bind {next : GenerationAccumulator → Except Stopped GenerationAccumulator}
    (h : KeepsCalls acc step) (hnext : ∀ acc', KeepsCalls acc' (next acc')) :
    KeepsCalls acc (step >>= next) := by
  refine Ensures.bind h fun acc' hacc' => ?_
  refine (hnext acc').mono (fun last hlast => ?_) fun _ h => h
  exact hlast.trans hacc'

theorem sendEvent_keepsCalls (event : ChatEvent) : KeepsCalls acc (acc.sendEvent X event) := by
  unfold sendEvent
  split
  · exact stop_excused (by simp [CoreError.new, protocolMessages])
  · rfl

theorem emit_keepsCalls (kind : ChatEventKind) : KeepsCalls acc (acc.emit X kind) :=
  (sendEvent_keepsCalls _ : KeepsCalls { acc with sequence := _ } _)

theorem outputLimit_excused : Excused (acc.stop (outputLimitError X.uuid)) :=
  stop_excused (by simp [outputLimitError, outputLimitErrorMessage, CoreError.new,
    protocolMessages])

theorem toolArgumentsLimit_excused : Excused (acc.stop (toolArgumentsLimitError X.uuid)) :=
  stop_excused (by simp [toolArgumentsLimitError, toolProtocolError, CoreError.new,
    protocolMessages])

theorem trackOutputDelta_keepsCalls (delta : String) :
    KeepsCalls acc (acc.trackOutputDelta X delta) := by
  unfold trackOutputDelta
  refine (ensures_okOr fun _ => outputLimit_excused).bind fun bytes _ =>
    (ensures_okOr fun _ => outputLimit_excused).bind fun chars _ =>
    (ensures_require fun _ => outputLimit_excused).bind fun _ _ => ?_
  exact KeepsCalls.done rfl

theorem trackToolArguments_keepsCalls (delta : String) :
    KeepsCalls acc (acc.trackToolArguments X delta) := by
  unfold trackToolArguments
  refine (ensures_okOr fun _ => toolArgumentsLimit_excused).bind fun bytes _ =>
    (ensures_okOr fun _ => toolArgumentsLimit_excused).bind fun chars _ =>
    (ensures_require fun _ => toolArgumentsLimit_excused).bind fun _ _ => ?_
  exact KeepsCalls.done rfl

theorem excusedFault_reflection : ExcusedFault (.error (credentialReflectionError X.uuid)) :=
  excusedFault_error (by simp [credentialReflectionError, credentialReflectionErrorMessage,
    CoreError.new, protocolMessages])

/-- A reflection stream only ever complains about the credential. -/
theorem push_excused (stream : ReflectionStream) (fragment : String) :
    Ensures (fun _ => True) ExcusedFault (stream.push X.uuid fragment) := by
  unfold ReflectionStream.push
  cases stream.guard.credential with
  | none => exact trivial
  | some credential =>
    refine (ensures_okOr fun _ => excusedFault_panicked).bind fun prefixTable _ => ?_
    cases credentialSuffixAfterLinearScan (stream.pending ++ fragment) credential prefixTable with
    | none => exact excusedFault_reflection
    | some retained =>
      refine .ite (fun _ => trivial) fun _ => ?_
      exact (ensures_okOr fun _ => excusedFault_panicked).bind fun cut _ => trivial

theorem emitChunks_keepsCalls (id : ToolCallId) (rounds : Nat) (remaining : String) :
    KeepsCalls acc (emitChunks X id rounds remaining acc) := by
  induction rounds generalizing remaining acc with
  | zero =>
    unfold emitChunks
    exact Ensures.ite (fun _ => KeepsCalls.done rfl) fun _ => excusedFault_panicked
  | succ rounds ih =>
    unfold emitChunks
    refine Ensures.ite (fun _ => KeepsCalls.done rfl) fun _ => ?_
    have hpanicked : Excused ⟨.panicked, acc⟩ := excusedFault_panicked
    refine (ensures_okOr fun _ => hpanicked).bind fun cut _ => ?_
    refine .bind (Q := fun _ => True) ?_ fun chunk _ => ?_
    · cases ToolCallArgumentsDelta.parse cut.1 with
      | ok chunk => exact trivial
      | error _ => exact stop_excused (by simp [toolProtocolError, CoreError.new, protocolMessages])
    · exact (emit_keepsCalls _).bind fun acc' => ih cut.2

/-! ### Provider events -/

theorem forwardText_keepsCalls (delta : String) : KeepsCalls acc (acc.forwardText X delta) := by
  unfold forwardText
  refine (trackOutputDelta_keepsCalls delta).bind fun acc => ?_
  refine (lift_excused (push_excused _ _)).bind fun pushed _ => ?_
  refine Ensures.ite (fun _ => ?_) fun _ => KeepsCalls.done rfl
  exact emit_keepsCalls _

theorem forwardReasoning_keepsCalls (delta : String) :
    KeepsCalls acc (acc.forwardReasoning X delta) := by
  unfold forwardReasoning
  refine (trackOutputDelta_keepsCalls delta).bind fun acc => ?_
  refine (lift_excused (push_excused _ _)).bind fun pushed _ => ?_
  refine Ensures.ite (fun _ => ?_) fun _ => KeepsCalls.done rfl
  exact emit_keepsCalls _

open KeepsCalls

theorem forwardOpaqueState_keepsCalls (state : OpaqueReasoningState) :
    KeepsCalls acc (acc.forwardOpaqueState X state) := by
  unfold forwardOpaqueState
  refine Ensures.bind (Q := fun _ => True) (lift_excused ?_) fun state _ => ?_
  · unfold CredentialReflectionGuard.validateOpaqueState
    cases acc.credentialGuard.credential with
    | none => exact trivial
    | some credential => exact .ite (fun _ => excusedFault_reflection) fun _ => trivial
  refine .ite (fun _ => ?_) fun _ => done rfl
  refine .bind (Q := fun _ => True) (lift_excused ?_) fun state _ => ?_
  · unfold validateOpaqueStateFamily
    split
    case h_5 => exact excusedFault_error (by simp [CoreError.new, protocolMessages])
    all_goals exact trivial
  refine .bind (Q := fun _ => True) ?_ fun _ _ => done rfl
  cases hstates : validateOpaqueReasoningStates X.sizes (acc.opaqueReasoningState ++ [state]) with
  | ok u => exact trivial
  | error reason =>
    have hother : ∀ reason ∈ opaqueReasons, reason ∉ protocolMessages := by decide
    exact stop_excused (hother _ ((validateOpaqueReasoningStates_reasons _ _).of_error hstates))

/-! ### Provider events of a call -/

variable {before after : List ProviderEvent}

theorem protocolError_excused (h : message ∉ protocolMessages) :
    Excused (acc.stop (toolProtocolError X.uuid message)) :=
  stop_excused h

theorem streamUnavailable_excused : Excused (acc.stop
    (toolProtocolError X.uuid "provider tool-call argument stream was unavailable")) :=
  protocolError_excused (by simp [protocolMessages])

theorem validateToolId_excused (guard : CredentialReflectionGuard) (id : ToolCallId) :
    Ensures (fun id' => id' = id) ExcusedFault (guard.validateToolId X id) :=
  Ensures.ite (fun _ => rfl) fun _ => excusedFault_reflection

/-- An active call is in the set of active calls. -/
theorem phase_eq_active :
    acc.phase id = .active ↔ id ∈ acc.activeToolCalls := by
  unfold phase
  split
  · simpa
  · split <;> simpa

section

variable (h : Tracked ProviderEvent.call? before acc.phase)
include h

theorem forwardToolStart_tracked {name : ToolName}
    (hall : Tracked ProviderEvent.call? (before ++ .toolCallStarted id name :: after) phases) :
    Ensures (fun acc' => Tracked ProviderEvent.call? (before ++ [.toolCallStarted id name])
      acc'.phase) Excused (acc.forwardToolStart X id name) := by
  obtain ⟨phase', hnext⟩ := h.next_of_append hall rfl
  have hfresh : acc.phase id = .fresh := by cases hphase : acc.phase id <;> simp_all [Phase.next]
  have hunused : ¬ (id ∈ acc.activeToolCalls ∨ id ∈ acc.completedToolCalls) := by
    unfold phase at hfresh
    split at hfresh
    · cases hfresh
    split at hfresh
    · cases hfresh
    exact not_or.mpr ⟨‹_›, ‹_›⟩
  unfold forwardToolStart
  refine .bind (Q := fun checked => checked = (id, name)) (lift_excused ?_) ?_
  · exact .ite (fun _ => rfl) fun _ => excusedFault_reflection
  rintro _ rfl
  refine (ensures_require fun _ => protocolError_excused (by simp [protocolMessages])).bind
    fun _ _ => (ensures_require fun hused => absurd hunused hused).bind fun _ _ => ?_
  refine (emit_keepsCalls _).mono (fun acc' hacc' => ?_) fun _ h => h
  rw [hacc']
  have hopened := h.snoc
    (show call? (.toolCallStarted id name) = some (id, .opened) from rfl)
    (show (acc.phase id).next .opened = some .active by rw [hfresh]; rfl)
  refine hopened.congr fun other => ?_
  by_cases hoth : other = id
  · subst hoth
    rw [update_self]
    exact if_pos (Finset.mem_insert_self other acc.activeToolCalls)
  · rw [update_of_ne hoth]
    exact phase_congr (by simp [hoth]) Iff.rfl

/-- Arguments and completions are expected of an active call. -/
theorem mem_active_of_next (hall : Tracked ProviderEvent.call? (before ++ event :: after) phases)
    (hview : ProviderEvent.call? event = some (id, mark)) (hmark : mark ≠ .opened) :
    id ∈ acc.activeToolCalls := by
  obtain ⟨phase', hnext⟩ := h.next_of_append hall hview
  rw [← phase_eq_active]
  cases hphase : acc.phase id <;> cases mark <;> simp_all [Phase.next]

theorem forwardToolArguments_tracked
    (hall : Tracked ProviderEvent.call? (before ++ .toolCallArgumentsDelta id delta :: after)
      phases) :
    Ensures (fun acc' => Tracked ProviderEvent.call? (before ++ [.toolCallArgumentsDelta id delta])
      acc'.phase) Excused (acc.forwardToolArguments X id delta) := by
  have hactv := mem_active_of_next h hall rfl (by decide)
  have hkeeps : KeepsCalls acc (acc.forwardToolArguments X id delta) := by
    unfold forwardToolArguments
    refine (lift_excused (validateToolId_excused acc.credentialGuard id)).bind ?_
    rintro _ rfl
    refine (ensures_require fun hidle => absurd hactv hidle).bind fun _ _ => ?_
    refine (trackToolArguments_keepsCalls delta.val).bind fun acc => ?_
    refine (ensures_okOr fun _ => streamUnavailable_excused).bind fun stream _ => ?_
    refine (lift_excused (push_excused _ _)).bind fun pushed _ => ?_
    refine .ite (fun _ => done rfl) fun _ => ?_
    exact emitChunks_keepsCalls _ _ _
  refine hkeeps.mono (fun acc' hacc' => ?_) fun _ h => h
  rw [hacc']
  have hinside := h.snoc
    (show call? (.toolCallArgumentsDelta id delta) = some (id, .within) from rfl)
    (show (acc.phase id).next .within = some .active by rw [phase_eq_active.mpr hactv]; rfl)
  refine hinside.congr fun other => ?_
  by_cases hoth : other = id
  · subst hoth
    rw [update_self, phase_eq_active.mpr hactv]
  · rw [update_of_ne hoth]

theorem completeToolCall_tracked
    (hall : Tracked ProviderEvent.call? (before ++ .toolCallCompleted id :: after) phases) :
    Ensures (fun acc' => Tracked ProviderEvent.call? (before ++ [.toolCallCompleted id])
      acc'.phase) Excused (acc.completeToolCall X id) := by
  have hactv := mem_active_of_next h hall rfl (by decide)
  unfold completeToolCall
  refine (lift_excused (validateToolId_excused acc.credentialGuard id)).bind ?_
  rintro id rfl
  refine (ensures_require fun hidle => absurd hactv hidle).bind fun _ _ =>
    (ensures_okOr fun _ => streamUnavailable_excused).bind fun reflection _ => ?_
  have hclosed := h.snoc
    (show call? (.toolCallCompleted id) = some (id, .closed) from rfl)
    (show (acc.phase id).next .closed = some .done by rw [phase_eq_active.mpr hactv]; rfl)
  refine hclosed.congr fun other => ?_
  by_cases hoth : other = id
  · subst hoth
    rw [update_self]
    simp [phase]
  · rw [update_of_ne hoth]
    exact phase_congr (by simp [hoth]) (by simp [hoth])

end

/-- Events of no call keep the phases. -/
theorem KeepsCalls.tracked
    (hkeeps : KeepsCalls acc step) (h : Tracked ProviderEvent.call? before acc.phase)
    (hview : ProviderEvent.call? event = none) :
    Ensures (fun acc' => Tracked ProviderEvent.call? (before ++ [event]) acc'.phase) Excused
      step := by
  refine hkeeps.mono (fun acc' hacc' => ?_) fun _ h => h
  rw [hacc']
  exact h.skip hview

theorem dispatch_tracked (event : ProviderEvent) (h : Tracked ProviderEvent.call? before acc.phase)
    (hall : Tracked ProviderEvent.call? (before ++ event :: after) phases) :
    Ensures (fun acc' => Tracked ProviderEvent.call? (before ++ [event]) acc'.phase) Excused
      (dispatch X event acc) := by
  cases event with
  | textDelta delta => exact (forwardText_keepsCalls delta).tracked h rfl
  | reasoningDelta delta => exact (forwardReasoning_keepsCalls delta).tracked h rfl
  | opaqueReasoningState state => exact (forwardOpaqueState_keepsCalls state).tracked h rfl
  | toolCallStarted id name => exact forwardToolStart_tracked h hall
  | toolCallArgumentsDelta id delta => exact forwardToolArguments_tracked h hall
  | toolCallCompleted id => exact completeToolCall_tracked h hall

/-- **One provider event** that the protocol allows is taken, or the generation stops for
    another reason. -/
theorem forward_tracked (event : ProviderEvent) (h : Tracked ProviderEvent.call? before acc.phase)
    (hall : Tracked ProviderEvent.call? (before ++ event :: after) phases) :
    Ensures (fun acc' => Tracked ProviderEvent.call? (before ++ [event]) acc'.phase) Excused
      (acc.forward X event) := by
  have hlim (acc : GenerationAccumulator) : Excused (acc.stop (providerEventLimitError X.uuid)) :=
    protocolError_excused (by simp [protocolMessages])
  unfold forward
  refine (ensures_okOr fun _ => hlim _).bind fun count _ =>
    (ensures_require fun _ => hlim _).bind fun _ _ => ?_
  exact dispatch_tracked event h hall

/-! ### The end of the streams -/

theorem finishText_keepsCalls : KeepsCalls acc (acc.finishText X) := by
  unfold finishText
  refine Ensures.ite (fun _ => KeepsCalls.done rfl) fun _ => ?_
  exact KeepsCalls.bind (emit_keepsCalls _) fun acc' => KeepsCalls.done rfl

theorem finishReasoning_keepsCalls : KeepsCalls acc (acc.finishReasoning X) := by
  unfold finishReasoning
  exact Ensures.ite (fun _ => KeepsCalls.done rfl) fun _ => emit_keepsCalls _

theorem finishCompletion_keepsCalls (completion : ToolCallId × ReflectionStream) :
    KeepsCalls acc (acc.finishCompletion X completion) := by
  unfold finishCompletion
  refine Ensures.ite (fun _ => emit_keepsCalls _) fun _ => ?_
  exact (emitChunks_keepsCalls _ _ _).bind fun acc' => emit_keepsCalls _

theorem finishCompletions_keepsCalls (completions : List (ToolCallId × ReflectionStream)) :
    KeepsCalls acc (finishCompletions X completions acc) := by
  induction completions generalizing acc with
  | nil => exact KeepsCalls.done rfl
  | cons completion completions ih =>
    exact (finishCompletion_keepsCalls completion).bind fun acc' => ih

theorem finishPublicStreams_keepsCalls : KeepsCalls acc (acc.finishPublicStreams X) := by
  unfold finishPublicStreams
  refine finishText_keepsCalls.bind fun acc₁ => finishReasoning_keepsCalls.bind fun acc₂ => ?_
  exact finishCompletions_keepsCalls acc₂.pendingToolCompletions

end GenerationAccumulator

/-! ### The run -/

section Running

open GenerationAccumulator

variable {X : ChatExternals} {before after : List ProviderEvent}

/-- The queue, by induction on what it holds. -/
theorem drain_tracked (events : List ProviderEvent)
    (h : Tracked ProviderEvent.call? before acc.phase)
    (hall : Tracked ProviderEvent.call? (before ++ (events ++ after)) phases) :
    Ensures (fun acc' => Tracked ProviderEvent.call? (before ++ events) acc'.phase) Excused
      (drain X events acc) := by
  induction events generalizing acc before with
  | nil =>
    rw [append_nil]
    exact h
  | cons event events ih =>
    unfold drain
    refine (forward_tracked event h hall).bind fun acc' h' => ?_
    rw [append_cons]
    refine ih h' ?_
    rw [← append_cons]
    exact hall

/-- The loop, by induction on its rounds: it hands over what `handover` says. -/
theorem collectLoop_tracked (result : CoreResult GenerationUsage) (ticks : List Tick)
    (cancellationOpen providerOpen : Bool) (h : Tracked ProviderEvent.call? before acc.phase)
    (hall : Tracked ProviderEvent.call?
      (before ++ ((handover ticks cancellationOpen providerOpen).events ++ after)) phases) :
    Ensures (fun out =>
        Tracked ProviderEvent.call?
          (before ++ (handover ticks cancellationOpen providerOpen).events) out.1.phase ∧
        out.2.2 = (handover ticks cancellationOpen providerOpen).providerOpen ∧
        (if (handover ticks cancellationOpen providerOpen).interrupted then
          out.2.1 = .error (cancelledError X.uuid) else out.2.1 = result))
      Excused (collectLoop X result ticks cancellationOpen providerOpen acc) := by
  induction ticks generalizing acc before cancellationOpen providerOpen with
  | nil =>
    refine ⟨?_, rfl, rfl⟩
    show Tracked _ (before ++ []) _
    rw [append_nil]
    exact h
  | cons tick ticks ih =>
    cases tick with
    | cancellationChanged cancelled =>
      unfold collectLoop handover
      unfold handover at hall
      by_cases hcanc : cancellationOpen = true ∧ cancelled = true
      · rw [if_pos hcanc, if_pos hcanc]
        refine ⟨?_, rfl, rfl⟩
        show Tracked _ (before ++ []) _
        rw [append_nil]
        exact h
      · rw [if_neg hcanc, if_neg hcanc]
        rw [if_neg hcanc] at hall
        exact ih cancellationOpen providerOpen h hall
    | cancellationClosed => exact ih false providerOpen h hall
    | providerClosed =>
      cases providerOpen with
      | true => exact ih cancellationOpen false h hall
      | false => exact ih cancellationOpen false h hall
    | event event =>
      cases providerOpen with
      | false => exact ih cancellationOpen false h hall
      | true =>
        unfold collectLoop
        refine (forward_tracked event h hall).bind fun acc' h' => ?_
        refine (ih cancellationOpen true h' ?_).mono (fun out hout => ?_) fun _ h => h
        · rw [← append_cons]
          exact hall
        · rw [← append_cons] at hout
          exact hout

theorem boundProviderError_excused (guard : CredentialReflectionGuard)
    (h : error.message ∉ protocolMessages) :
    (boundProviderError X.uuid error guard).message ∉ protocolMessages := by
  unfold boundProviderError
  split
  · simp [credentialReflectionError, credentialReflectionErrorMessage, CoreError.new,
      protocolMessages]
  split
  · exact h
  · simp [CoreError.new, protocolMessages]

/-- A provider that completed and kept to the protocol leaves no call open. -/
theorem collectProviderEvents_excused (hserves : schedule.Serves sent usage)
    (hsent : WellBracketed ProviderEvent.call? sent)
    (hstart : Tracked ProviderEvent.call? [] acc.phase) :
    Ensures (fun out => ∀ error, out.2 = .error error → error.message ∉ protocolMessages) Excused
      (collectProviderEvents X schedule acc) := by
  have hcanc : (cancelledError X.uuid).message ∉ protocolMessages := by
    simp [cancelledError, CoreError.new, protocolMessages]
  unfold collectProviderEvents
  by_cases hbef : schedule.cancelledBefore = true
  · rw [if_pos hbef]
    intro error herr
    cases herr
    exact hcanc
  rw [if_neg hbef]
  obtain ⟨phases, htracked, hidle⟩ := wellBracketed_iff.mp hsent
  have hhanded : schedule.handed = schedule.loop.events ++
      if schedule.loop.providerOpen then schedule.queued else [] := if_neg hbef
  obtain ⟨rest, hrest⟩ := hserves.ordered
  have hall := htracked
  rw [← hrest, hhanded, append_assoc] at hall
  refine (collectLoop_tracked schedule.result schedule.ticks true true hstart hall).bind ?_
  rintro ⟨acc₁, result, providerOpen⟩ ⟨h₁, hopen, hres⟩
  have h₁ : Tracked call? schedule.loop.events acc₁.phase := h₁
  have hopen : providerOpen = schedule.loop.providerOpen := hopen
  have hres : if schedule.loop.interrupted then result = .error (cancelledError X.uuid)
      else result = schedule.result := hres
  rw [hopen]
  refine (drain_tracked _ h₁ hall).bind fun acc₂ h₂ => ?_
  rw [← hhanded] at h₂
  by_cases hinterrupted : schedule.loop.interrupted = true
  · rw [if_pos hinterrupted] at hres
    subst hres
    intro error herr
    cases herr
    exact boundProviderError_excused _ hcanc
  · rw [if_neg hinterrupted] at hres
    have hcompl : schedule.handed = sent :=
      hserves.complete (by simp [Schedule.interrupted, hbef, hinterrupted])
    have hphases : ∀ id, acc₂.phase id = phases id := by
      rw [hcompl] at h₂
      exact fun id => Option.some.inj ((h₂ id).symm.trans (htracked id))
    have hnone : acc₂.activeToolCalls = ∅ := by
      apply Finset.eq_empty_of_forall_notMem
      intro id hid
      exact hidle id ((hphases id).symm.trans (phase_eq_active.mpr hid))
    have hok : result = .ok usage := hres.trans hserves.result
    subst hok
    refine (ensures_require fun hopen => absurd hnone hopen).bind fun _ _ => ?_
    intro error herr
    cases herr

theorem concludeGeneration_excused {result : CoreResult GenerationUsage}
    (h : ∀ error, result = .error error → error.message ∉ protocolMessages) :
    Ensures (fun _ => True) Excused (concludeGeneration X acc result) := by
  cases result with
  | error error => exact stop_excused (h error rfl)
  | ok usage =>
    refine (lift_excused (Q := fun _ => True) ?_).bind fun usage _ => ?_
    · exact Ensures.ite (fun _ => excusedFault_reflection) fun _ => trivial
    · exact .bind finishPublicStreams_keepsCalls fun acc' _ =>
        .bind (emit_keepsCalls _) fun _ _ => trivial

/-- **The protocol.** A generation whose provider completed, with events that are well-bracketed
    for each call, does not stop over its tool calls. -/
theorem generate_excused (X : ChatExternals) (request : GenerationRequest)
    (credential : Option String) (receiver : Option Nat) (hserves : schedule.Serves sent usage)
    (hsent : WellBracketed ProviderEvent.call? sent) :
    Ensures (fun _ => True) Excused (generate X request credential receiver schedule) := by
  unfold generate
  refine .bind (Q := fun _ => True) ?_ fun _ _ => ?_
  · cases hlim : validateBorrowedCredential X credential with
    | ok u => exact trivial
    | error error =>
      refine stop_excused ?_
      rw [← (require_eq_error.mp hlim).2]
      simp [invalid, credentialLimitErrorMessage, CoreError.new, protocolMessages]
  refine .bind (Q := fun _ => True) ?_ fun _ _ => ?_
  · cases hrequest : validateGenerationRequest X.uuid request with
    | ok u => exact trivial
    | error error =>
      have hmsg := (validateGenerationRequest_message X.uuid request).of_error hrequest
      have hdisj : ∀ message ∈ requestMessages, message ∉ protocolMessages := by decide
      exact stop_excused (hdisj _ hmsg)
  refine .bind (sendEvent_keepsCalls _) fun acc hacc => ?_
  have hstart : Tracked call? [] acc.phase := by
    rw [hacc]
    exact tracked_nil
  exact (collectProviderEvents_excused hserves hsent hstart).bind fun out hout =>
    concludeGeneration_excused hout

/-- The failure that a caller sees. -/
theorem runGeneration_excused (X : ChatExternals) (request : GenerationRequest)
    (credential : Option String) (receiver : Option Nat) (hserves : schedule.Serves sent usage)
    (hsent : WellBracketed ProviderEvent.call? sent) {failure : GenerationFailure}
    (hfailed : (runGeneration X request credential receiver schedule).ended = .failed failure) :
    failure.error.message ∉ protocolMessages := by
  unfold runGeneration at hfailed
  cases hrun : generate X request credential receiver schedule with
  | ok out =>
    rw [hrun] at hfailed
    cases hfailed
  | error stopped =>
    have hexcused := (generate_excused X request credential receiver hserves hsent).of_error hrun
    rw [hrun] at hfailed
    obtain ⟨fault, acc⟩ := stopped
    cases fault with
    | panicked => cases hfailed
    | error error =>
      have hfailure : acc.failure error = failure := Ended.failed.inj hfailed
      rw [← hfailure]
      exact hexcused error rfl

end Running

end LorePia.Chat
