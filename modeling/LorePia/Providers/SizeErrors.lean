import LorePia.Providers.EventSizes

namespace LorePia.Providers

open Lib Avoids

/-!
# Providers — what the error of the size says

The error of an event that is too long is raised by the checks of the size, and by nothing that
the adapter does with the event: every other failure has words of its own.

* `OpenAiCompatible.sizeErrors`, `Ollama.processChatLine_others` — the adapters keep their words
  for the size.
-/

variable {delta : StreamDelta}

/-- Two errors of a stream differ in their words. -/
theorem streamingError_ne (h : message ≠ message') :
    ¬ streamingError uuid message = streamingError uuid message' :=
  fun heq => h (congrArg CoreError.message heq)

section Rules

variable {α β σ : Type} {P : CoreError → Prop}

theorem avoids_response_bind {f : α → Response β} (hx : Avoids P x.result)
    (hf : ∀ a, Avoids P (f a).result) : Avoids P (x >>= f).result := by
  intro e h
  rcases SseReader.bind_result_eq_error.mp h with h | ⟨a, _, h⟩
  · exact hx e h
  · exact hf a e h

theorem avoids_forEachSend {step : α → σ → Response σ} (hstep : ∀ a s, Avoids P (step a s).result)
    (as : List α) (s : σ) : Avoids P (forEachSend step as s).result := by
  induction as generalizing s with
  | nil => exact avoids_pure
  | cons a as ih => exact avoids_response_bind (hstep a s) ih

theorem avoids_onlyIf {c : Prop} [Decidable c] (hx : Avoids P x.result) :
    Avoids P (Transcript.onlyIf c x).result := by
  rw [Transcript.onlyIf]
  by_cases hc : c
  · rw [if_pos hc]
    exact hx
  · rw [if_neg hc]
    exact avoids_pure

end Rules

/-- No failure has the words for the size. -/
abbrev OtherErrors {α : Type} (size : String) (X : ProviderExternals) (x : CoreResult α) :
    Prop :=
  Avoids (· = streamingError X.uuid size) x

section Steps

variable {α β : Type} {size message : String} (h : message ≠ size)
include h

theorem others_error : OtherErrors size X (.error (streamingError X.uuid message) : Except _ α) :=
  avoids_error (streamingError_ne h)

theorem others_require {c : Prop} [Decidable c] (hf : OtherErrors size X (f ())) :
    OtherErrors size X (require c (streamingError X.uuid message) >>= f) :=
  Avoids.bind (avoids_require (streamingError_ne h)) fun _ _ => hf

theorem others_check {c : Prop} [Decidable c] :
    OtherErrors size X (require c (streamingError X.uuid message)) :=
  avoids_require (streamingError_ne h)

theorem others_okOr (hf : ∀ a, OtherErrors size X (f a)) :
    OtherErrors size X (okOr o (streamingError X.uuid message) >>= f) :=
  Avoids.bind (Avoids.okOr (streamingError_ne h)) fun a _ => hf a

theorem others_mapError {ε : Type} {x : Except ε α} (hf : ∀ a, OtherErrors size X (f a)) :
    OtherErrors size X ((x.mapError fun _ => streamingError X.uuid message) >>= f) :=
  Avoids.bind (avoids_mapError fun _ => streamingError_ne h) fun a _ => hf a

end Steps

namespace OpenAiCompatible

open OpenRouter

/-- The words of the adapter for an event that is too long. -/
def eventWords : String := "provider streaming event exceeded 1 MiB"

variable {X : ProviderExternals} {call : PartialToolCall} {index : Nat}

/-! ### The calls -/

theorem appendFragment_others {target : String} (h : message ≠ eventWords) :
    OtherErrors eventWords X (appendFragment X target fragment maxBytes message) := by
  cases fragment with
  | none => exact avoids_pure
  | some fragment => exact others_require h avoids_pure

theorem observeIdentity_others :
    OtherErrors eventWords X (observeIdentity X idFragment nameFragment call) := by
  refine Avoids.ite (fun _ => ?_) fun _ => ?_
  · exact others_require (by decide) avoids_pure
  · refine (appendFragment_others (by decide)).bind fun _ _ => ?_
    exact (appendFragment_others (by decide)).bind fun _ _ => avoids_pure

theorem observeArguments_others {arguments : Option String} :
    OtherErrors eventWords X (observeArguments X arguments call) := by
  cases arguments with
  | none => exact avoids_pure
  | some arguments =>
    refine others_mapError (by decide) fun _ => ?_
    exact others_require (by decide) avoids_pure

theorem announce_others : OtherErrors eventWords X (announce X index call t) := by
  refine others_mapError (by decide) fun _ => ?_
  refine others_mapError (by decide) fun _ => ?_
  exact others_require (by decide) avoids_pure

theorem startIfReady_others :
    OtherErrors eventWords X (startIfReady X index requireCompleteIdentity t) := by
  refine others_okOr (by decide) fun call => ?_
  cases call.started with
  | some id => exact avoids_pure
  | none =>
    refine Avoids.ite (fun _ => ?_) fun _ => ?_
    · exact others_require (by decide) avoids_pure
    · exact .ite (fun _ => avoids_pure) fun _ => announce_others

theorem observeDelta_others {defaultId kind : Option String} :
    OtherErrors eventWords X (observeDelta X index defaultId kind idFragment function t) := by
  refine others_require (by decide) ?_
  refine observeIdentity_others.bind fun _ _ => ?_
  exact observeArguments_others.bind fun _ _ => startIfReady_others

theorem observeToolCalls_others (deltas : List ToolCallDelta) (position : Nat)
    (t : ToolCallTracker) : OtherErrors eventWords X (observeToolCalls X position deltas t) := by
  induction deltas generalizing position t with
  | nil => exact avoids_pure
  | cons delta deltas ih =>
    refine others_require (by decide) ?_
    refine others_require (by decide) ?_
    refine observeDelta_others.bind fun out _ => ?_
    exact (ih (position + 1) out.2).bind fun _ _ => avoids_pure

theorem observeChoice_others :
    OtherErrors eventWords X (observeChoice X delta t) := by
  refine (observeToolCalls_others _ _ _).bind fun out _ => ?_
  refine Avoids.bind ?_ fun _ _ => avoids_pure
  cases delta.functionCall with
  | none => exact avoids_pure
  | some function => exact observeDelta_others

theorem finishCalls_others (indexes : List Nat) (t : ToolCallTracker) :
    OtherErrors eventWords X (finishCalls X indexes t) := by
  induction indexes generalizing t with
  | nil => exact avoids_pure
  | cons index indexes ih =>
    refine startIfReady_others.bind fun out _ => ?_
    refine others_okOr (by decide) fun _ => ?_
    exact (ih out.2).bind fun _ _ => avoids_pure

/-! ### The reasoning of OpenRouter -/

theorem validateOpenrouterReasoningFragment_others :
    OtherErrors eventWords X (validateOpenrouterReasoningFragment X detail) := by
  refine others_require (by decide) ?_
  refine others_okOr (by decide) fun _ => ?_
  refine others_require (by decide) ?_
  refine others_require (by decide) ?_
  refine others_require (by decide) ?_
  exact others_check (by decide)

theorem mergePayload_others :
    OtherErrors eventWords X (mergePayload X incoming payload fields) := by
  unfold mergePayload
  split
  · exact avoids_pure
  · split
    · exact avoids_pure
    · exact avoids_pure
    · exact avoids_pure
    · exact others_error (by decide)

theorem mergeMetadata_others (entries fields : List (String × Json)) :
    OtherErrors eventWords X (mergeMetadata X entries fields) := by
  induction entries generalizing fields with
  | nil => exact avoids_pure
  | cons entry entries ih =>
    refine Avoids.ite (fun _ => ih fields) fun _ => ?_
    split
    · exact others_require (by decide) (ih fields)
    · exact ih _

theorem placeDetail_others :
    OtherErrors eventWords X (OpenRouterReasoningTracker.placeDetail X detail details) := by
  unfold OpenRouterReasoningTracker.placeDetail
  split
  · exact avoids_pure
  · refine .ite (fun _ => ?_) fun _ => avoids_pure
    refine .bind ?_ fun mergeable _ => .ite (fun _ => ?_) fun _ => avoids_pure
    · refine .ite (fun _ => avoids_pure) fun _ => ?_
      exact others_require (by decide) avoids_pure
    · refine .bind ?_ fun _ _ => avoids_pure
      exact mergePayload_others.bind fun _ _ =>
        (mergeMetadata_others _ _).bind fun _ _ => avoids_pure

variable {r : OpenRouterReasoningTracker}

theorem validateDetailBounds_others : OtherErrors eventWords X (r.validateDetailBounds X) := by
  refine others_require (by decide) ?_
  exact others_check (by decide)

theorem observeDetails_others (details : List Json) (r : OpenRouterReasoningTracker) :
    OtherErrors eventWords X (OpenRouterReasoningTracker.observeDetails X details r) := by
  induction details generalizing r with
  | nil => exact avoids_pure
  | cons detail details ih =>
    refine .bind ?_ fun r' _ => ih r'
    refine validateOpenrouterReasoningFragment_others.bind fun _ _ => ?_
    refine placeDetail_others.bind fun _ _ => ?_
    exact validateDetailBounds_others.bind fun _ _ => avoids_pure

theorem observe_others :
    OtherErrors eventWords X (r.observe X reasoning reasoningDetails enabled) := by
  refine Avoids.ite (fun _ => avoids_pure) fun _ => Avoids.bind ?_ fun r' _ => ?_
  · cases reasoning with
    | none => exact avoids_pure
    | some reasoning =>
      refine others_require (by decide) ?_
      exact validateDetailBounds_others.bind fun _ _ => avoids_pure
  · cases reasoningDetails with
    | none => exact avoids_pure
    | some value =>
      refine others_okOr (by decide) fun details => ?_
      exact others_require (by decide) (observeDetails_others _ _)

theorem typedDetails_others (details : List Json) :
    OtherErrors eventWords X (OpenRouterReasoningTracker.typedDetails X details) := by
  induction details with
  | nil => exact avoids_pure
  | cons detail details ih =>
    refine others_mapError (by decide) fun _ => ?_
    exact ih.bind fun _ _ => avoids_pure

theorem finish_others {hasToolCalls : Bool} :
    OtherErrors eventWords X (r.finish X hasToolCalls) := by
  refine Avoids.ite (fun _ => avoids_pure) fun _ => ?_
  refine others_require (by decide) ?_
  refine (typedDetails_others _).bind fun _ _ => ?_
  exact others_mapError (by decide) fun _ => avoids_pure

/-! ### Events -/

section Events

variable {decodeChunk : Json → Option StreamChunk} {mode : Mode} {s : State}
  {choices : List StreamChoice}

theorem visibleReasoning_others :
    OtherErrors eventWords X (delta.visibleReasoning X) := by
  unfold StreamDelta.visibleReasoning
  split
  · exact others_require (by decide) avoids_pure
  · exact avoids_pure
  · exact avoids_pure

theorem parseStreamChunk_others {value : Json} :
    OtherErrors eventWords X (parseStreamChunk X decodeChunk value) := by
  refine others_okOr (by decide) fun chunk => ?_
  refine Avoids.bind ?_ fun _ _ => avoids_pure
  unfold validateChoiceSelection
  split
  · exact avoids_pure
  · refine others_require (by decide) ?_
    exact visibleReasoning_others.bind fun _ _ => avoids_pure
  · exact others_error (by decide)

theorem parsePayload_others :
    OtherErrors eventWords X (parsePayload X decodeChunk data) := by
  refine others_okOr (by decide) fun _ => ?_
  refine others_require (by decide) ?_
  refine others_require (by decide) ?_
  exact others_require (by decide) parseStreamChunk_others

theorem sendFragment_others :
    OtherErrors eventWords X (sendFragment make fragment).result := by
  unfold sendFragment
  split
  · exact avoids_pure
  · exact avoids_pure

theorem emitChoiceDelta_others (choice : StreamChoice) (s : State) :
    OtherErrors eventWords X (emitChoiceDelta X mode choice s).result := by
  refine avoids_response_bind visibleReasoning_others fun _ => ?_
  refine avoids_response_bind observe_others fun _ => ?_
  refine avoids_response_bind sendFragment_others fun _ => ?_
  refine avoids_response_bind sendFragment_others fun _ => ?_
  refine avoids_response_bind observeChoice_others fun _ => ?_
  exact avoids_response_bind avoids_pure fun _ => avoids_pure

theorem finishReasons_others (choices : List StreamChoice) :
    OtherErrors eventWords X (finishReasons X choices) := by
  induction choices with
  | nil => exact avoids_pure
  | cons choice choices ih =>
    have hlater : ∀ here : Bool × Bool, OtherErrors eventWords X (do
        let later ← finishReasons X choices
        return (here.1 || later.1, here.2 || later.2)) :=
      fun here => Avoids.bind ih fun _ _ => avoids_pure
    rw [finishReasons]
    cases choice.finishReason with
    | none => exact hlater (false, false)
    | some reason =>
      refine .ite (fun _ => hlater (true, false)) fun _ => ?_
      exact .ite (fun _ => hlater (true, true)) fun _ => others_error (by decide)

theorem observeFinishReasons_others :
    OtherErrors eventWords X (observeFinishReasons X choices s).result := by
  refine avoids_response_bind (finishReasons_others choices) fun out => ?_
  obtain ⟨sawSupported, sawTool⟩ := out
  cases sawSupported with
  | false => exact avoids_pure
  | true =>
    refine avoids_response_bind (others_check (by decide)) fun _ => ?_
    refine avoids_response_bind finish_others fun _ => ?_
    refine avoids_response_bind avoids_pure fun _ => ?_
    refine avoids_response_bind (finishCalls_others _ _) fun _ => ?_
    exact avoids_response_bind avoids_pure fun _ => avoids_pure

theorem processChunk_others :
    OtherErrors eventWords X (processChunk X mode chunk s).result :=
  avoids_response_bind (avoids_forEachSend emitChoiceDelta_others _ _) fun _ =>
    observeFinishReasons_others

theorem processEvent_others (event : Bytes) (s : State) :
    OtherErrors eventWords X (processEvent X decodeChunk mode event s).result := by
  refine avoids_response_bind (others_okOr (by decide) fun _ =>
    avoids_pure) fun data => ?_
  cases data with
  | none => exact avoids_pure
  | some data =>
    dsimp only
    by_cases hdone : data = "[DONE]"
    · rw [if_pos hdone]
      show OtherErrors eventWords X (processDone X s)
      unfold processDone
      split
      · exact others_error (by decide)
      · exact others_error (by decide)
      · exact avoids_pure
    · rw [if_neg hdone]
      refine avoids_response_bind parsePayload_others fun chunk => ?_
      by_cases hterm : s.stream = .terminal
      · rw [if_pos hterm]
        refine avoids_response_bind ?_ fun _ => avoids_pure
        exact others_require (by decide) avoids_pure
      · rw [if_neg hterm]
        exact avoids_response_bind processChunk_others fun _ => avoids_pure

/-- **The words for the size** are kept for the size. -/
theorem sizeErrors : (reader X decodeChunk mode).SizeErrors where
  process := fun event s h => processEvent_others event s _ h rfl
  incomplete := streamingError_ne (by decide)
  finish := by
    intro s h
    have h : incompleteError X s.stream = streamingError X.uuid eventWords := Except.error.inj h
    cases hstrm : s.stream with
    | awaitingData =>
      rw [hstrm] at h
      exact streamingError_ne (by decide) h
    | streaming =>
      rw [hstrm] at h
      exact streamingError_ne (by decide) h
    | terminal =>
      rw [hstrm] at h
      exact streamingError_ne (by decide) h

end Events

end OpenAiCompatible

namespace Ollama

/-- The words of the adapter for a line that is too long. -/
def lineWords : String := "Ollama streaming line exceeded 1 MiB"

theorem parseChunk_others {line : Bytes} :
    OtherErrors lineWords X (parseChunk X decodeChunk line) := by
  refine others_okOr (by decide) fun _ => others_require (by decide) ?_
  refine others_require (by decide) ?_
  refine others_okOr (by decide) fun _ => others_okOr (by decide) fun _ => ?_
  exact others_okOr (by decide) fun _ => avoids_pure

theorem wholeCallArguments_others :
    OtherErrors lineWords X (wholeCallArguments X words arguments) := by
  refine others_require (by decide) ?_
  refine others_okOr (by decide) fun _ => ?_
  exact avoids_mapError fun _ => streamingError_ne (by decide)

theorem emitOllamaToolCall_others (call : OllamaToolCall) (s : ChatStreamState) :
    OtherErrors lineWords X (emitOllamaToolCall X call s).result := by
  refine avoids_response_bind ?_ fun _ => avoids_pure
  refine avoids_response_bind (others_check (by decide)) fun _ => ?_
  refine avoids_response_bind (avoids_mapError fun _ => streamingError_ne (by decide)) fun _ => ?_
  refine avoids_response_bind (others_check (by decide)) fun _ => ?_
  refine avoids_response_bind (okOr (streamingError_ne (by decide))) fun _ => ?_
  refine avoids_response_bind (avoids_mapError fun _ => streamingError_ne (by decide)) fun _ => ?_
  refine avoids_response_bind wholeCallArguments_others fun _ => ?_
  refine avoids_response_bind avoids_pure fun _ => avoids_response_bind avoids_pure fun _ => ?_
  exact avoids_response_bind avoids_pure fun _ => avoids_pure

/-- **The words for the size** are kept for the size. -/
theorem processChatLine_others (line : Bytes) (s : ChatStreamState) :
    OtherErrors lineWords X (processChatLine X decodeChunk line s).result := by
  rw [processChatLine]
  by_cases hblank : line.all isAsciiWhitespace = true
  · rw [if_pos hblank]
    exact avoids_pure
  · rw [if_neg hblank]
    refine avoids_response_bind parseChunk_others fun parsed => ?_
    refine avoids_response_bind (others_check (by decide)) fun _ => ?_
    refine avoids_response_bind (avoids_onlyIf avoids_pure) fun _ => ?_
    refine avoids_response_bind (avoids_onlyIf avoids_pure) fun _ => ?_
    refine avoids_response_bind (avoids_forEachSend emitOllamaToolCall_others _ _) fun _ => ?_
    exact avoids_pure

end Ollama

end LorePia.Providers
