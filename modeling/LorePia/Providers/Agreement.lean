import LorePia.Chat.Delivery
import LorePia.Chat.Protocol
import LorePia.Providers.Anthropic
import LorePia.Providers.Gemini
import LorePia.Providers.Ollama
import LorePia.Providers.Assembly
import LorePia.Providers.OpenAiResponses
import Mathlib.Algebra.Order.BigOperators.Group.List

namespace LorePia.Providers

open Lib Chat List OpenAiResponses ProviderEvent

/-!
# Providers — agreement with the accumulator

Five adapters, one tool protocol.  An adapter agrees with the accumulator on a response if the
events it sent are well-bracketed for each call, and no generation that it serves fails over
its tool calls.

Four of the adapters do so on every response they complete.  The Responses adapter does so
exactly if no two function calls were announced under one identifier (`agrees_iff`).
-/

/-- The adapters, with what each is told about a request. -/
inductive Adapter
  | openAiCompatible (mode : OpenAiCompatible.Mode)
  | openAiResponses
  | anthropic (preserveOpaqueReasoningState : Bool)
  | geminiSse
  | geminiUnary
  | ollama

/-- The derived `Deserialize` of the wire formats. -/
structure Decoders where
  streamChunk : Json → Option OpenAiCompatible.StreamChunk
  completedResponse : Json → Option OpenAiResponses.CompletedResponse
  streamEvent : String → Option Anthropic.StreamEvent
  generateContentResponse : Json → Option Gemini.GenerateContentResponse
  chatChunk : Json → Option Ollama.ChatChunk

section Agreement

variable (X : ProviderExternals) (D : Decoders)

/-- What an adapter does with a response. -/
def Adapter.respond : Adapter → List Arrival → Response GenerationUsage
  | .openAiCompatible mode => OpenAiCompatible.consumeStream X D.streamChunk mode
  | .openAiResponses => OpenAiResponses.consumeResponseStream X D.completedResponse
  | .anthropic preserve => Anthropic.consumeStream X D.streamEvent preserve
  | .geminiSse => Gemini.consumeSse X D.generateContentResponse
  | .geminiUnary => Gemini.consumeUnary X D.generateContentResponse
  | .ollama => Ollama.consumeChatStream X D.chatChunk

/-- The adapter and the accumulator agree on what was sent for a completed response. -/
structure Agrees (sent : List ProviderEvent) (usage : GenerationUsage) : Prop where
  wellBracketed : WellBracketed ProviderEvent.call? sent
  accepted : ∀ (Y : ChatExternals) (request : GenerationRequest) (credential : Option String)
    (receiver : Option Nat) (schedule : Schedule) (failure : GenerationFailure),
    schedule.Serves sent usage →
    (runGeneration Y request credential receiver schedule).ended = .failed failure →
      failure.error.message ∉ protocolMessages

/-- The Responses adapter was not sent two function calls under one identifier. -/
def Adapter.DistinctCallIds (adapter : Adapter) (arrivals : List Arrival) : Prop :=
  match adapter with
  | .openAiResponses => (OpenAiResponses.announcedCallIds X arrivals).Nodup
  | _ => True

variable {X D}

/-- Well-bracketed events are all it takes. -/
theorem agrees_of_wellBracketed (h : WellBracketed call? sent) :
    Agrees sent usage where
  wellBracketed := h
  accepted Y request credential receiver _ _ hserves hfailed :=
    runGeneration_excused Y request credential receiver hserves h hfailed

theorem wellBracketed_iff_distinctCallIds {adapter : Adapter}
    (h : (adapter.respond X D arrivals).result = .ok usage) :
    WellBracketed call? (adapter.respond X D arrivals).sent ↔
      adapter.DistinctCallIds X arrivals := by
  cases adapter with
  | openAiResponses => exact consumeResponseStream_wellBracketed_iff h
  | openAiCompatible mode =>
    exact iff_of_true (OpenAiCompatible.consumeStream_wellBracketed h) trivial
  | anthropic preserve => exact iff_of_true (Anthropic.consumeStream_wellBracketed h) trivial
  | geminiSse => exact iff_of_true (Gemini.consumeSse_wellBracketed h) trivial
  | geminiUnary => exact iff_of_true (Gemini.consumeUnary_wellBracketed h) trivial
  | ollama => exact iff_of_true (Ollama.consumeChatStream_wellBracketed h) trivial

/-- **Agreement.** On a response that an adapter completes, it agrees with the accumulator
    exactly if it was not sent one identifier for two function calls. -/
theorem agrees_iff (X : ProviderExternals) (D : Decoders) (adapter : Adapter)
    (arrivals : List Arrival) (usage : GenerationUsage)
    (h : (adapter.respond X D arrivals).result = .ok usage) :
    Agrees (adapter.respond X D arrivals).sent usage ↔ adapter.DistinctCallIds X arrivals := by
  constructor
  · intro hagrees
    exact (wellBracketed_iff_distinctCallIds h).mp hagrees.wellBracketed
  · intro hdist
    exact agrees_of_wellBracketed ((wellBracketed_iff_distinctCallIds h).mpr hdist)

end Agreement

/-! ### Two responses

Two function calls, announced, settled without arguments and completed: once under two
identifiers, once under one. -/

/-- The payloads of the sample responses, and what they decode to. -/
def samplePayloads : List (String × Json) :=
  let added (itemId callId : String) : Json := .object
    [("item", .object [("call_id", .string callId), ("id", .string itemId),
      ("name", .string "lookup"), ("type", .string "function_call")]),
     ("type", .string "response.output_item.added")]
  let done (itemId : String) : Json := .object
    [("arguments", .string ""), ("item_id", .string itemId), ("name", .string "lookup"),
     ("type", .string "response.function_call_arguments.done")]
  let completed : Json := .object
    [("response", .object [("status", .string "completed")]),
     ("type", .string "response.completed")]
  [ ("\x7b\"type\":\"response.output_item.added\",\"item\":\x7b\"type\":\"function_call\",\"id\":\"fc_1\",\"call_id\":\"call-1\",\"name\":\"lookup\"\x7d\x7d",
      added "fc_1" "call-1"),
    ("\x7b\"type\":\"response.output_item.added\",\"item\":\x7b\"type\":\"function_call\",\"id\":\"fc_2\",\"call_id\":\"call-1\",\"name\":\"lookup\"\x7d\x7d",
      added "fc_2" "call-1"),
    ("\x7b\"type\":\"response.output_item.added\",\"item\":\x7b\"type\":\"function_call\",\"id\":\"fc_2\",\"call_id\":\"call-2\",\"name\":\"lookup\"\x7d\x7d",
      added "fc_2" "call-2"),
    ("\x7b\"type\":\"response.function_call_arguments.done\",\"item_id\":\"fc_1\",\"name\":\"lookup\",\"arguments\":\"\"\x7d",
      done "fc_1"),
    ("\x7b\"type\":\"response.function_call_arguments.done\",\"item_id\":\"fc_2\",\"name\":\"lookup\",\"arguments\":\"\"\x7d",
      done "fc_2"),
    ("\x7b\"type\":\"response.completed\",\"response\":\x7b\"status\":\"completed\"\x7d\x7d",
      completed) ]

def sampleProvider : ProviderExternals where
  uuid := "operation-1"
  parseJson bytes :=
    (samplePayloads.find? fun payload => asBytes payload.1 = bytes).map Prod.snd
  printJson _ := none
  sizes := Chat.sampleExternals.sizes
  decodeBase64 _ := none
  encodeBase64 _ := ""

def sampleDecoders : Decoders where
  streamChunk _ := none
  completedResponse value :=
    ((value.get? "response").bind fun response => (response.get? "status").bind Json.asStr?).map
      fun status => ⟨status, none, none⟩
  streamEvent _ := none
  generateContentResponse _ := none
  chatChunk _ := none

theorem samplePayloads_oneLine : ∀ payload ∈ samplePayloads, OneLine payload.1 := by
  simp only [samplePayloads, forall_mem_cons, not_mem_nil, false_imp_iff, forall_true_iff, and_true]
  refine ⟨?_, ?_, ?_, ?_, ?_, ?_⟩
  all_goals
    refine ⟨?_, ?_, ?_, by simp⟩
    · rw [String.toList_ofList]
      decide
    · rw [asBytes, String.toList_ofList]
      decide
    · rw [String.toList_ofList]
      decide

theorem samplePayloads_parse : ∀ payload ∈ samplePayloads, payload.1 ≠ "[DONE]" ∧
    sampleProvider.parseJson (asBytes payload.1) = some payload.2 := by
  simp [samplePayloads, sampleProvider, asBytes_inj]

set_option maxRecDepth 20000 in
theorem samplePayloads_length : ∀ payload ∈ samplePayloads, (frame payload.1).length ≤ 256 := by
  simp only [samplePayloads, forall_mem_cons, not_mem_nil, false_imp_iff, forall_true_iff, and_true]
  refine ⟨?_, ?_, ?_, ?_, ?_, ?_⟩
  all_goals
    decide

/-- The sample payloads at some positions, and the stream that carries them. -/
def samplePayloadsAt (positions : List (Fin 6)) : List (String × Json) :=
  positions.map fun position => samplePayloads.get position

def sampleArrivals (positions : List (Fin 6)) : List Arrival :=
  (samplePayloadsAt positions).map fun payload => .ok (frame payload.1)

theorem respond_sampleArrivals (h : positions.length ≤ 6) :
    Adapter.openAiResponses.respond sampleProvider sampleDecoders (sampleArrivals positions) =
      runPayloads sampleProvider sampleDecoders.completedResponse
        ((samplePayloadsAt positions).map Prod.snd) .default := by
  have hmem : ∀ payload ∈ samplePayloadsAt positions, payload ∈ samplePayloads := by
    refine forall_mem_map.mpr fun position _ => ?_
    exact get_mem samplePayloads position
  have hlen := fun payload hpayload => samplePayloads_length payload (hmem payload hpayload)
  apply consumeResponseStream_payloads
  · intro payload hpayload
    exact ⟨samplePayloads_oneLine payload (hmem payload hpayload),
      samplePayloads_parse payload (hmem payload hpayload)⟩
  · intro payload hpayload
    exact (hlen payload hpayload).trans (by decide)
  · have hbd : ∀ length ∈ (samplePayloadsAt positions).map fun payload =>
        (frame payload.1).length, length ≤ 256 := by
      refine forall_mem_map.mpr fun payload hpayload => ?_
      exact hlen payload hpayload
    have hsum := sum_le_card_nsmul _ _ hbd
    have hcount : (samplePayloadsAt positions).length = positions.length := length_map _
    rw [length_map, hcount, Nat.nsmul_eq_mul] at hsum
    rw [length_flatMap]
    have hmax : 6 * 256 ≤ maxStreamBytes := by decide
    omega

def distinctArrivals : List Arrival := sampleArrivals [0, 3, 2, 4, 5]
def reusedArrivals : List Arrival := sampleArrivals [0, 3, 1, 4, 5]

theorem agrees_distinctArrivals :
    (Adapter.openAiResponses.respond sampleProvider sampleDecoders distinctArrivals).result =
        .ok .default ∧
      (Agrees (Adapter.openAiResponses.respond sampleProvider sampleDecoders distinctArrivals).sent
          .default ↔ Adapter.openAiResponses.DistinctCallIds sampleProvider distinctArrivals) := by
  have hcompd : (Adapter.openAiResponses.respond sampleProvider sampleDecoders
      distinctArrivals).result = .ok .default := by
    rw [distinctArrivals, respond_sampleArrivals (by decide)]
    decide
  exact ⟨hcompd, agrees_iff sampleProvider sampleDecoders .openAiResponses distinctArrivals
    .default hcompd⟩

/-- What the adapter sends for the stream that reuses an identifier. -/
def reusedSent : List ProviderEvent :=
  [ .toolCallStarted sampleCall sampleTool, .toolCallCompleted sampleCall,
    .toolCallStarted sampleCall sampleTool, .toolCallCompleted sampleCall ]

/-- All events wait in the queue when the provider is done. -/
def reusedSchedule : Schedule where
  cancelledBefore := false
  ticks := []
  result := .ok .default
  queued := reusedSent

/-- The Responses adapter completes a response that a generation then fails for. -/
theorem reusedArrivals_disagree :
    (Adapter.openAiResponses.respond sampleProvider sampleDecoders reusedArrivals).result =
        .ok .default ∧
      (Adapter.openAiResponses.respond sampleProvider sampleDecoders reusedArrivals).sent =
        reusedSent ∧
      ¬ WellBracketed ProviderEvent.call? reusedSent ∧
      reusedSchedule.Serves reusedSent .default ∧
      (runGeneration Chat.sampleExternals sampleRequest none none reusedSchedule).ended =
        .failed ⟨toolProtocolError Chat.sampleExternals.uuid
          "provider reused a tool-call identifier", "", 2⟩ := by
  rw [reusedArrivals, respond_sampleArrivals (by decide)]
  refine ⟨by decide, by decide, ?_, ⟨rfl, prefix_refl _, fun _ => rfl⟩, by decide⟩
  intro hbracketed
  have hnodup := hbracketed.nodup_openedKeys
  revert hnodup
  decide

end LorePia.Providers
