import LorePia.Chat.Run

namespace LorePia.Chat

open Lib GenerationAccumulator

/-!
# Chat — delivery

What a receiver gets from a generation that completes: everything the provider sent, on every
channel and nothing else, in events numbered from one, with every tool call opened and closed
once.  Text that a reflection stream holds back and completions that are deferred to the end
change when an event goes out, never whether it does.
-/

/-- What was emitted is what was sent, in order and complete. -/
structure Delivery (provided : List ProviderEvent) (outcome : GenerationOutcome)
    (emitted : List ChatEvent) : Prop where
  numbered : emitted.map ChatEvent.sequence = List.range' 1 outcome.lastSequence
  first : emitted.head?.map ChatEvent.kind = some .generationStarted
  last : emitted.getLast?.map ChatEvent.kind = some (.usageUpdated outcome.usage)
  text : emittedText emitted = sentText provided
  reasoning : emittedReasoning emitted = sentReasoning provided
  arguments : ∀ id, emittedArguments id emitted = sentArguments id provided
  shown : outcome.text = emittedText emitted
  calls : WellBracketed emittedCall emitted

section Delivering

variable {outcome : GenerationOutcome}

/-- With every channel closed, no call is left open for the receiver. -/
theorem shownPhase_closed_ne_active (acc : GenerationAccumulator) (id : ToolCallId) :
    acc.shownPhase closed id ≠ .active := by
  by_cases hcompd : id ∈ acc.completedToolCalls <;> simp [shownPhase, closed, hcompd]

theorem Delivered.relays_closed (h : Delivered X credential schedule acc outcome) :
    acc.Relays X credential (sentTraffic schedule.provided) closed := by
  obtain ⟨acc₀, hrelays, hacc⟩ := h.relays
  rw [hacc]
  exact hrelays.emitSilent rfl rfl h.summary

theorem Delivered.delivery (h : Delivered X credential schedule acc outcome) :
    Delivery schedule.provided outcome acc.emitted := by
  obtain ⟨acc₀, _, hacc⟩ := h.relays
  have hrelays := h.relays_closed
  obtain ⟨hmap, hseq⟩ := hrelays.log.numbered h.bounded
  refine ⟨?_, hrelays.log.started, ?_, hrelays.conveys.text.1, hrelays.conveys.reasoning.1,
    fun id => (hrelays.conveys.calls id).1, h.text.trans hrelays.shown, ?_⟩
  · rw [hmap, h.lastSequence, hseq]
  · rw [hacc]
    show (acc₀.emitted ++ [_]).getLast?.map ChatEvent.kind = _
    rw [List.getLast?_concat]
    rfl
  · exact wellBracketed_iff.mpr ⟨_, hrelays.lifecycle, shownPhase_closed_ne_active acc⟩

end Delivering

/-- **Delivery.** Whatever the provider sends and however the scheduler interleaves it: if a
    generation whose receiver stays open completes, the emitted events are numbered
    `1, …, last_sequence`, start with `GenerationStarted` and end with `UsageUpdated`; the
    text, the reasoning and the arguments of every call are what the provider sent; the
    outcome reports the text; and every call is started once and completed once, after all
    its arguments. -/
theorem generation_delivers (X : ChatExternals) (request : GenerationRequest)
    (credential : Option String) (schedule : Schedule) (outcome : GenerationOutcome)
    (emitted : List ChatEvent)
    (h : runGeneration X request credential none schedule = ⟨.completed outcome, emitted⟩) :
    Delivery schedule.provided outcome emitted := by
  have hends := generate_ensures X request credential schedule
  unfold runGeneration at h
  cases hrun : generate X request credential none schedule with
  | error stopped =>
    obtain ⟨fault, acc⟩ := stopped
    rw [hrun] at h
    cases fault <;> cases h
  | ok out =>
    obtain ⟨acc, outcome'⟩ := out
    have hdeliv : Delivered X credential schedule acc outcome' := (hends.of_ok hrun).1
    rw [hrun] at h
    cases h
    exact hdeliv.delivery

/-! ### A run with a held-back text, a deferred completion and a late event -/

def sampleExternals : ChatExternals where
  uuid := "00000000-0000-4000-8000-000000000000"
  parseJson := fun _ => none
  sizes := ⟨fun _ => 0, fun _ => 0, fun _ => 0, fun _ => some 0⟩

def sampleRequest : GenerationRequest where
  generationId := "generation"
  conversationId := "conversation"
  model := "model"
  messages := []
  temperature := none
  maxOutputTokens := none
  providerProvenance := none
  preserveOpaqueReasoningState := false

def sampleCall : ToolCallId := ⟨"call-1", by decide⟩
def sampleTool : ToolName := ⟨"lookup", by decide⟩
def sampleArguments : ToolCallArgumentsDelta := ⟨"sk", by decide⟩

/-- Text and arguments that end in a beginning of the credential `sk-1`. -/
def sampleSchedule : Schedule where
  cancelledBefore := false
  ticks :=
    [ .event (.textDelta "ask"), .event (.toolCallStarted sampleCall sampleTool),
      .event (.toolCallArgumentsDelta sampleCall sampleArguments),
      .event (.toolCallCompleted sampleCall), .cancellationClosed ]
  result := .ok .default
  queued := [.reasoningDelta "done"]

def sampleEvent (sequence : Nat) (kind : ChatEventKind) : ChatEvent :=
  .new "generation" "conversation" sequence kind

theorem generation_delivers_sample :
    runGeneration sampleExternals sampleRequest (some "sk-1") none sampleSchedule =
        ⟨.completed ⟨"ask", .default, [], 8⟩,
          [ sampleEvent 1 .generationStarted, sampleEvent 2 (.textDelta "a"),
            sampleEvent 3 (.toolCallStarted sampleCall sampleTool),
            sampleEvent 4 (.reasoningDelta "done"), sampleEvent 5 (.textDelta "sk"),
            sampleEvent 6 (.toolCallArgumentsDelta sampleCall sampleArguments),
            sampleEvent 7 (.toolCallCompleted sampleCall),
            sampleEvent 8 (.usageUpdated .default) ]⟩ ∧
      Delivery sampleSchedule.provided ⟨"ask", .default, [], 8⟩
        (runGeneration sampleExternals sampleRequest (some "sk-1") none sampleSchedule).emitted :=
  ⟨by decide, generation_delivers sampleExternals sampleRequest (some "sk-1")
    sampleSchedule _ _ (by decide)⟩

end LorePia.Chat
