import LorePia.Chat.Delivery

namespace LorePia.Chat

open Lib List

/-!
# Chat — a receiver that closes

The receiver of a generation may close at any event.  Such a run is cut short and otherwise
the run with a receiver that stays open: every step either ends as its twin does, or stops
because the receiver is gone (`Cuts`).  So nothing panics that did not panic before, and what
went out is what a stream consists of (`ChatEventKind.isStreamed`).
-/

variable {credential : Option String} {emitted : List ChatEvent} {kind : ChatEventKind}
  {request : GenerationRequest} {schedule : Schedule}

/-- Not one of the events about a message that the finishing task sends. -/
def ChatEventKind.isStreamed : ChatEventKind → Bool
  | .messageCommitted _ _ | .generationCancelled | .generationFailed _ _ | .generationFinished =>
    false
  | _ => true

/-- An event that ends a generation for its subscribers. -/
def ChatEventKind.isTerminal : ChatEventKind → Bool
  | .generationCancelled | .generationFailed _ _ | .generationFinished => true
  | _ => false

theorem ChatEventKind.not_isTerminal_of_isStreamed
    (h : kind.isStreamed = true) : kind.isTerminal = false := by
  cases kind <;> simp_all [isStreamed, isTerminal]

namespace GenerationAccumulator

variable {acc : GenerationAccumulator}

/-- The twin, whose receiver stays open. -/
def opened (acc : GenerationAccumulator) : GenerationAccumulator := { acc with receiver := none }

/-- Nothing but stream events went out. -/
def Streamed (acc : GenerationAccumulator) : Prop :=
  ∀ event ∈ acc.emitted, event.kind.isStreamed = true

/-- The second accumulator is the twin of the first. -/
structure Twins (acc acc' : GenerationAccumulator) : Prop where
  opened : acc' = acc.opened
  streamed : acc.Streamed

/-- The first computation ends well only if the second does, with related results, and panics
    only if the second does. -/
def Cuts {α β : Type} (R : α → β → Prop) (x : Except Stopped α) (y : Except Stopped β) : Prop :=
  Ensures (fun a => ∃ b, y = .ok b ∧ R a b) (fun stopped => stopped.acc.Streamed ∧
      (stopped.fault = .panicked → ∃ stopped', y = .error stopped' ∧ stopped'.fault = .panicked))
    x

section Cuts

variable {α β γ δ : Type} {R : α → β → Prop} {S : γ → δ → Prop}

theorem Cuts.ok (h : R a b) : Cuts R (.ok a) (.ok b) := ⟨b, rfl, h⟩

/-- **Sequencing.** Related results go on in related ways. -/
theorem Cuts.bind (h : Cuts R x y) (hfg : ∀ a b, R a b → Cuts S (f a) (g b)) :
    Cuts S (x >>= f) (y >>= g) := by
  cases x with
  | ok a =>
    obtain ⟨b, rfl, hab⟩ := h
    exact hfg a b hab
  | error stopped =>
    obtain ⟨hstreamed, hpanics⟩ := h
    refine ⟨hstreamed, fun hpanicked => ?_⟩
    obtain ⟨stopped', rfl, hfault⟩ := hpanics hpanicked
    exact ⟨stopped', rfl, hfault⟩

theorem Cuts.ite {c : Prop} [Decidable c] (h : c → Cuts R x y) (h' : ¬ c → Cuts R x' y') :
    Cuts R (if c then x else x') (if c then y else y') := by
  by_cases hc : c
  · rw [if_pos hc, if_pos hc]
    exact h hc
  · rw [if_neg hc, if_neg hc]
    exact h' hc

/-- Twins stop for one reason. -/
theorem Streamed.cuts_error (h : acc.Streamed) (fault : Fault) :
    Cuts R (.error ⟨fault, acc⟩) (.error ⟨fault, acc.opened⟩) :=
  ⟨h, fun hpanicked => ⟨_, rfl, hpanicked⟩⟩

theorem Streamed.cuts_require (h : acc.Streamed) {c : Prop} [Decidable c] (error : CoreError) :
    Cuts (fun (_ _ : Unit) => c) (require c (acc.stop error)) (require c (acc.opened.stop error)) :=
  Cuts.ite (fun hc => .ok hc) fun _ => h.cuts_error _

/-- Twins go on as twins. -/
theorem Cuts.twins (h : Cuts Twins x' y')
    (hnext : ∀ acc, acc.Streamed → Cuts S (f acc) (g acc.opened)) :
    Cuts S (x' >>= f) (y' >>= g) :=
  h.bind fun acc _ htwins => htwins.opened ▸ hnext acc htwins.streamed

variable {f : α → Except Stopped γ} {g : α → Except Stopped δ} (hnext : ∀ a, Cuts S (f a) (g a))
include hnext

theorem Streamed.cuts_okOr (h : acc.Streamed) {o : Option α} {fault : Fault} :
    Cuts S (okOr o ⟨fault, acc⟩ >>= f) (okOr o ⟨fault, acc.opened⟩ >>= g) := by
  cases o with
  | none => exact h.cuts_error fault
  | some a => exact hnext a

theorem Streamed.cuts_mapError (h : acc.Streamed) {step : Except ε α} {fault : ε → Fault} :
    Cuts S ((step.mapError fun e => (⟨fault e, acc⟩ : Stopped)) >>= f)
      ((step.mapError fun e => (⟨fault e, acc.opened⟩ : Stopped)) >>= g) := by
  cases step with
  | ok a => exact hnext a
  | error e => exact h.cuts_error (fault e)

end Cuts

/-! ### The steps -/

theorem sendEvent_cuts (h : acc.Streamed) (hkind : event.kind.isStreamed = true) :
    Cuts Twins (acc.sendEvent X event) (acc.opened.sendEvent X event) := by
  have hsent : ∀ receiver, Streamed { acc with emitted := acc.emitted ++ [event], receiver } :=
    fun _ => forall_mem_concat.mpr ⟨h, hkind⟩
  unfold sendEvent
  split
  · -- the receiver is gone, which is an error and no panic
    exact ⟨h, fun hpanicked => by cases hpanicked⟩
  · exact .ok ⟨rfl, hsent _⟩

theorem emit_cuts (h : acc.Streamed) (hkind : kind.isStreamed = true) :
    Cuts Twins (acc.emit X kind) (acc.opened.emit X kind) := by
  have h' : Streamed { acc with sequence := saturatingAdd acc.sequence 1 } := h
  exact sendEvent_cuts h' hkind

theorem trackOutputDelta_cuts (h : acc.Streamed) (delta : String) :
    Cuts Twins (acc.trackOutputDelta X delta) (acc.opened.trackOutputDelta X delta) := by
  refine h.cuts_okOr fun bytes => ?_
  refine h.cuts_okOr fun chars => ?_
  refine (h.cuts_require _).bind fun _ _ _ => ?_
  exact .ok ⟨rfl, h⟩

theorem trackToolArguments_cuts (h : acc.Streamed) (delta : String) :
    Cuts Twins (acc.trackToolArguments X delta) (acc.opened.trackToolArguments X delta) := by
  refine h.cuts_okOr fun bytes => ?_
  refine h.cuts_okOr fun chars => ?_
  refine (h.cuts_require _).bind fun _ _ _ => ?_
  exact .ok ⟨rfl, h⟩

theorem emitChunks_cuts (id : ToolCallId) (rounds : Nat) (remaining : String) (h : acc.Streamed) :
    Cuts Twins (emitChunks X id rounds remaining acc)
      (emitChunks X id rounds remaining acc.opened) := by
  induction rounds generalizing remaining acc with
  | zero => exact .ite (fun _ => .ok ⟨rfl, h⟩) fun _ => h.cuts_error .panicked
  | succ rounds ih =>
    refine .ite (fun _ => .ok ⟨rfl, h⟩) fun _ => ?_
    refine h.cuts_okOr fun cut => ?_
    refine h.cuts_mapError fun chunk => ?_
    refine .twins (emit_cuts h rfl) fun acc h => ?_
    exact ih cut.2 h

section

variable (h : acc.Streamed)
include h

theorem forwardText_cuts (delta : String) :
    Cuts Twins (acc.forwardText X delta) (acc.opened.forwardText X delta) := by
  refine (trackOutputDelta_cuts h delta).twins fun acc h => ?_
  refine h.cuts_mapError fun pushed => ?_
  refine .ite (fun _ => ?_) fun _ => .ok ⟨rfl, h⟩
  have h' : Streamed { acc with textReflection := pushed.2, text := acc.text ++ pushed.1 } := h
  exact emit_cuts h' rfl

theorem forwardReasoning_cuts (delta : String) :
    Cuts Twins (acc.forwardReasoning X delta) (acc.opened.forwardReasoning X delta) := by
  refine (trackOutputDelta_cuts h delta).twins fun acc h => ?_
  refine h.cuts_mapError fun pushed => ?_
  refine .ite (fun _ => ?_) fun _ => .ok ⟨rfl, h⟩
  have h' : Streamed { acc with reasoningReflection := pushed.2 } := h
  exact emit_cuts h' rfl

theorem forwardToolStart_cuts (id : ToolCallId) (name : ToolName) :
    Cuts Twins (acc.forwardToolStart X id name) (acc.opened.forwardToolStart X id name) := by
  refine h.cuts_mapError fun ⟨id, name⟩ => ?_
  refine (h.cuts_require _).bind fun _ _ _ => ?_
  refine (h.cuts_require _).bind fun _ _ _ => ?_
  have h' : Streamed { acc with
      activeToolCalls := insert id acc.activeToolCalls
      toolArgumentReflections :=
        acc.toolArgumentReflections.insert id (.new acc.credentialGuard) } := h
  exact emit_cuts h' rfl

theorem forwardToolArguments_cuts (id : ToolCallId) (delta : ToolCallArgumentsDelta) :
    Cuts Twins (acc.forwardToolArguments X id delta)
      (acc.opened.forwardToolArguments X id delta) := by
  refine h.cuts_mapError fun id => ?_
  refine (h.cuts_require _).bind fun _ _ _ => ?_
  refine (trackToolArguments_cuts h delta.val).twins fun acc h => ?_
  refine h.cuts_okOr fun stream => ?_
  refine h.cuts_mapError fun pushed => ?_
  refine .ite (fun _ => .ok ⟨rfl, h⟩) fun _ => ?_
  have h' : Streamed { acc with
      toolArgumentReflections := acc.toolArgumentReflections.insert id pushed.2 } := h
  exact emitChunks_cuts id _ _ h'

theorem completeToolCall_cuts (id : ToolCallId) :
    Cuts Twins (acc.completeToolCall X id) (acc.opened.completeToolCall X id) := by
  refine h.cuts_mapError fun id => ?_
  refine (h.cuts_require _).bind fun _ _ _ => ?_
  have h' : Streamed { acc with activeToolCalls := acc.activeToolCalls.erase id } := h
  refine h'.cuts_okOr fun reflection => ?_
  exact .ok ⟨rfl, h⟩

theorem forwardOpaqueState_cuts (state : OpaqueReasoningState) :
    Cuts Twins (acc.forwardOpaqueState X state) (acc.opened.forwardOpaqueState X state) := by
  refine h.cuts_mapError fun state => ?_
  refine .ite (fun _ => ?_) fun _ => .ok ⟨rfl, h⟩
  refine h.cuts_mapError fun state => ?_
  refine h.cuts_mapError fun _ => ?_
  exact .ok ⟨rfl, h⟩

theorem forward_cuts (event : ProviderEvent) :
    Cuts Twins (acc.forward X event) (acc.opened.forward X event) := by
  refine h.cuts_okOr fun count => ?_
  have h' : Streamed { acc with providerEventCount := count } := h
  refine (h'.cuts_require _).bind fun _ _ _ => ?_
  cases event with
  | textDelta delta => exact forwardText_cuts h' delta
  | reasoningDelta delta => exact forwardReasoning_cuts h' delta
  | opaqueReasoningState state => exact forwardOpaqueState_cuts h' state
  | toolCallStarted id name => exact forwardToolStart_cuts h' id name
  | toolCallArgumentsDelta id delta => exact forwardToolArguments_cuts h' id delta
  | toolCallCompleted id => exact completeToolCall_cuts h' id

theorem finishText_cuts :
    Cuts Twins (acc.finishText X) (acc.opened.finishText X) := by
  refine .ite (fun _ => .ok ⟨rfl, h⟩) fun _ => ?_
  have h' : Streamed { acc with textReflection := acc.textReflection.finish.2 } := h
  refine .twins (emit_cuts h' rfl) fun acc h => ?_
  exact .ok ⟨rfl, h⟩

theorem finishReasoning_cuts :
    Cuts Twins (acc.finishReasoning X) (acc.opened.finishReasoning X) := by
  refine .ite (fun _ => .ok ⟨rfl, h⟩) fun _ => ?_
  have h' : Streamed { acc with reasoningReflection := acc.reasoningReflection.finish.2 } := h
  exact emit_cuts h' rfl

theorem finishCompletion_cuts (completion : ToolCallId × ReflectionStream) :
    Cuts Twins (acc.finishCompletion X completion) (acc.opened.finishCompletion X completion) := by
  have hcompd : ∀ acc acc' : GenerationAccumulator, Twins acc acc' →
      Cuts Twins (acc.emit X (.toolCallCompleted completion.1))
        (acc'.emit X (.toolCallCompleted completion.1)) := by
    rintro acc _ ⟨rfl, h⟩
    exact emit_cuts h rfl
  refine .ite (fun _ => hcompd acc _ ⟨rfl, h⟩) fun _ => ?_
  exact (emitChunks_cuts completion.1 _ _ h).bind hcompd

end

theorem finishCompletions_cuts (completions : List (ToolCallId × ReflectionStream))
    (h : acc.Streamed) :
    Cuts Twins (finishCompletions X completions acc)
      (finishCompletions X completions acc.opened) := by
  induction completions generalizing acc with
  | nil => exact .ok ⟨rfl, h⟩
  | cons completion completions ih =>
    refine (finishCompletion_cuts h completion).twins fun acc h => ?_
    exact ih h

theorem finishPublicStreams_cuts (h : acc.Streamed) :
    Cuts Twins (acc.finishPublicStreams X) (acc.opened.finishPublicStreams X) := by
  refine (finishText_cuts h).twins fun acc h => ?_
  refine (finishReasoning_cuts h).twins fun acc h => ?_
  have h' : Streamed { acc with pendingToolCompletions := [] } := h
  exact finishCompletions_cuts acc.pendingToolCompletions h'

end GenerationAccumulator

/-! ### The run -/

section Run

open GenerationAccumulator

variable {X : ChatExternals}

/-- Twins, with the same result next to them. -/
def TwinsWith {α : Type} (p q : GenerationAccumulator × α) : Prop := Twins p.1 q.1 ∧ p.2 = q.2

variable (result : CoreResult GenerationUsage)

theorem collectLoop_cuts (ticks : List Tick)
    (cancellationOpen providerOpen : Bool) (h : acc.Streamed) :
    Cuts TwinsWith (collectLoop X result ticks cancellationOpen providerOpen acc)
      (collectLoop X result ticks cancellationOpen providerOpen acc.opened) := by
  induction ticks generalizing acc cancellationOpen providerOpen with
  | nil => exact .ok ⟨⟨rfl, h⟩, rfl⟩
  | cons tick ticks ih =>
    cases tick with
    | cancellationChanged cancelled =>
      exact .ite (fun _ => .ok ⟨⟨rfl, h⟩, rfl⟩) fun _ => ih cancellationOpen providerOpen h
    | cancellationClosed => exact ih false providerOpen h
    | providerClosed =>
      cases providerOpen with
      | true => exact ih cancellationOpen false h
      | false => exact ih cancellationOpen false h
    | event event =>
      cases providerOpen with
      | false => exact ih cancellationOpen false h
      | true =>
        refine (forward_cuts h event).twins fun acc h => ?_
        exact ih cancellationOpen true h

theorem drain_cuts (events : List ProviderEvent) (h : acc.Streamed) :
    Cuts Twins (drain X events acc) (drain X events acc.opened) := by
  induction events generalizing acc with
  | nil => exact .ok ⟨rfl, h⟩
  | cons event events ih =>
    refine (forward_cuts h event).twins fun acc h => ?_
    exact ih h

theorem collectProviderEvents_cuts (schedule : Schedule) (h : acc.Streamed) :
    Cuts TwinsWith (collectProviderEvents X schedule acc)
      (collectProviderEvents X schedule acc.opened) := by
  refine .ite (fun _ => .ok ⟨⟨rfl, h⟩, rfl⟩) fun _ => ?_
  refine (collectLoop_cuts schedule.result schedule.ticks true true h).bind ?_
  rintro ⟨acc₁, result, providerOpen⟩ ⟨_, _⟩ ⟨⟨rfl, h₁⟩, rfl⟩
  refine (drain_cuts _ h₁).twins fun acc₂ h₂ => ?_
  cases result with
  | error error => exact .ok ⟨⟨rfl, h₂⟩, rfl⟩
  | ok usage =>
    have hcompl : Cuts (fun (_ _ : Unit) => acc₂.activeToolCalls = ∅)
        (acc₂.ensureProtocolComplete X) (acc₂.opened.ensureProtocolComplete X) :=
      h₂.cuts_require _
    exact hcompl.bind fun _ _ _ => .ok ⟨⟨rfl, h₂⟩, rfl⟩

theorem concludeGeneration_cuts (h : acc.Streamed) :
    Cuts TwinsWith (concludeGeneration X acc result) (concludeGeneration X acc.opened result) := by
  cases result with
  | error error => exact h.cuts_error _
  | ok usage =>
    refine h.cuts_mapError fun usage => ?_
    refine (finishPublicStreams_cuts h).twins fun acc h => ?_
    refine .twins (emit_cuts h rfl) fun acc h => ?_
    exact .ok ⟨⟨rfl, h⟩, rfl⟩

/-- **Closing.** A generation whose receiver may close cuts the one whose receiver stays
    open. -/
theorem generate_cuts (X : ChatExternals) (request : GenerationRequest)
    (credential : Option String) (receiver : Option Nat) (schedule : Schedule) :
    Cuts TwinsWith (generate X request credential receiver schedule)
      (generate X request credential none schedule) := by
  have h : (GenerationAccumulator.new request credential receiver).Streamed := by
    intro event hev
    cases hev
  refine h.cuts_mapError fun _ => ?_
  refine h.cuts_mapError fun _ => ?_
  refine .twins (sendEvent_cuts h rfl) fun acc h => ?_
  refine (collectProviderEvents_cuts schedule h).bind ?_
  rintro ⟨acc, result⟩ ⟨_, _⟩ ⟨⟨rfl, h⟩, rfl⟩
  exact concludeGeneration_cuts result h

/-- Whatever the receiver does, a generation does not panic, and sends nothing but its
    stream. -/
theorem runGeneration_streams (X : ChatExternals) (request : GenerationRequest)
    (credential : Option String) (receiver : Option Nat) (schedule : Schedule) :
    (runGeneration X request credential receiver schedule).ended ≠ .panicked ∧
      ∀ event ∈ (runGeneration X request credential receiver schedule).emitted,
        event.kind.isStreamed = true := by
  have hcuts := generate_cuts X request credential receiver schedule
  have hends := generate_ensures X request credential schedule
  unfold runGeneration
  cases hrun : generate X request credential receiver schedule with
  | ok out =>
    obtain ⟨_, _, htwins, _⟩ := hcuts.of_ok hrun
    exact ⟨fun hended => (by cases hended), htwins.streamed⟩
  | error stopped =>
    obtain ⟨fault, acc⟩ := stopped
    obtain ⟨hstreamed, hpanics⟩ := hcuts.of_error hrun
    cases fault with
    | error error => exact ⟨fun hended => (by cases hended), hstreamed⟩
    | panicked =>
      -- the twin would have panicked as well
      obtain ⟨stopped', hrun', hfault⟩ := hpanics rfl
      obtain ⟨error, herr, _⟩ := (hends.of_error hrun').1.error
      rw [hfault] at herr
      cases herr

/-- An open receiver has all events of a completed generation, numbered up to the number that
    the outcome reports, and the text that it reports. -/
theorem runGeneration_completed {outcome : GenerationOutcome}
    (h : runGeneration X request credential none schedule = ⟨.completed outcome, emitted⟩) :
    emitted.map ChatEvent.sequence = List.range' 1 outcome.lastSequence ∧
      outcome.lastSequence + 2 ≤ u64Max ∧ outcome.text = emittedText emitted := by
  have hends := generate_ensures X request credential schedule
  unfold runGeneration at h
  cases hrun : generate X request credential none schedule with
  | error stopped =>
    obtain ⟨fault, acc⟩ := stopped
    rw [hrun] at h
    cases fault <;> cases h
  | ok out =>
    obtain ⟨acc, outcome'⟩ := out
    rw [hrun] at h
    cases h
    obtain ⟨hdeliv, hbds⟩ := hends.of_ok hrun
    have hdelivery := hdeliv.delivery
    have hlast : outcome.lastSequence = acc.emitted.length := by
      have hlen := congrArg List.length hdelivery.numbered
      rw [length_map, length_range'] at hlen
      exact hlen.symm
    exact ⟨hdelivery.numbered, hlast ▸ hbds, hdelivery.shown⟩

/-- An open receiver has all events of a failed generation as well, unless it failed before it
    sent anything. -/
theorem runGeneration_failed {failure : GenerationFailure}
    (h : runGeneration X request credential none schedule = ⟨.failed failure, emitted⟩) :
    emitted = [] ∧ failure.partialText = "" ∨
      emitted.map ChatEvent.sequence = List.range' 1 failure.lastSequence ∧
        failure.lastSequence + 2 ≤ u64Max := by
  have hends := generate_ensures X request credential schedule
  unfold runGeneration at h
  cases hrun : generate X request credential none schedule with
  | ok out =>
    rw [hrun] at h
    cases h
  | error stopped =>
    obtain ⟨fault, acc⟩ := stopped
    obtain ⟨hsafe, hbds⟩ := hends.of_error hrun
    rw [hrun] at h
    cases fault with
    | panicked => cases h
    | error error =>
      cases h
      rcases hsafe.account with hsil | ⟨all, channels, hrelays⟩
      · exact .inl hsil
      · have hfits : acc.emitted.length ≤ u64Max := Nat.le_trans (Nat.le_add_right _ 2) hbds
        obtain ⟨hnum, hlast⟩ := hrelays.log.numbered hfits
        right
        show _ = List.range' 1 acc.sequence ∧ acc.sequence + 2 ≤ u64Max
        rw [hlast]
        exact ⟨hnum, hbds⟩

end Run

end LorePia.Chat
