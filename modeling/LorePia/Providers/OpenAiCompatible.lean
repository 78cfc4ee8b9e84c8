import LorePia.Lib.SortedMap
import LorePia.Providers.OpenRouter
import Mathlib.Data.Finset.Insert

namespace LorePia.Providers.OpenAiCompatible

open List

open Lib Providers Providers.OpenRouter

/-!
# Providers — OpenAI-compatible chat completions

The chunks of a response, with the tracker that assembles its tool calls.  A call is known by
its index; identifier and name may arrive in fragments, and the call is announced with its
first arguments or at the finish reason, so that a name is never shown cut short.  A finish
reason completes every call; after it only usage may follow, until `[DONE]` ends the stream.

`Deserialize` of a chunk is derived; its decoder is a parameter.
-/

variable {out : List ProviderEvent × ToolCallTracker}

def maxSseBufferBytes : Nat := 1024 * 1024
def maxStreamBytes : Nat := 64 * 1024 * 1024
def maxPendingToolArgumentBytes : Nat := 256 * 1024

/-- `LEGACY_FUNCTION_CALL_INDEX`. -/
def legacyFunctionCallIndex : Nat := u32Max

def legacyFunctionCallId : String := "legacy-function-call-0"

inductive Dialect
  | standard
  | openRouter
deriving DecidableEq

structure PromptTokensDetails where
  cachedTokens : Option Nat
  cacheWriteTokens : Option Nat
  audioTokens : Option Nat

structure CompletionTokensDetails where
  reasoningTokens : Option Nat
  audioTokens : Option Nat
  acceptedPredictionTokens : Option Nat
  rejectedPredictionTokens : Option Nat

structure StreamUsage where
  promptTokens : Option Nat
  completionTokens : Option Nat
  totalTokens : Option Nat
  promptTokensDetails : Option PromptTokensDetails
  completionTokensDetails : Option CompletionTokensDetails

structure FunctionCallDelta where
  name : Option String
  arguments : Option String

structure ToolCallDelta where
  index : Option Nat
  id : Option String
  kind : Option String
  function : Option FunctionCallDelta

structure StreamDelta where
  content : Option String
  reasoning : Option String
  reasoningContent : Option String
  reasoningDetails : Option Json
  toolCalls : List ToolCallDelta
  functionCall : Option FunctionCallDelta

structure StreamChoice where
  index : Nat
  delta : StreamDelta
  finishReason : Option String

structure StreamChunk where
  choices : List StreamChoice
  usage : Option StreamUsage

/-! ### The tracker -/

structure PartialToolCall where
  id : String
  name : String
  pendingArguments : List ToolCallArgumentsDelta
  pendingArgumentBytes : Nat
  started : Option ToolCallId

def PartialToolCall.default : PartialToolCall := ⟨"", "", [], 0, none⟩

/-- The call once its pending arguments are taken. -/
def PartialToolCall.flushed (call : PartialToolCall) : PartialToolCall :=
  { call with pendingArgumentBytes := 0, pendingArguments := [] }

structure ToolCallTracker where
  calls : SortedMap Nat PartialToolCall
  startedIds : Finset ToolCallId

def ToolCallTracker.default : ToolCallTracker := ⟨.empty, ∅⟩

/-- A fragment that is present and not empty. -/
def nonEmpty (fragment : Option String) : Option String := fragment.filter (· ≠ "")

section Tracking

variable (X : ProviderExternals)

def appendBoundedFragment (target fragment : String) (maxBytes : Nat) (message : String) :
    CoreResult String := do
  require (byteLen target + byteLen fragment ≤ maxBytes) (streamingError X.uuid message)
  return target ++ fragment

/-- Append a fragment if there is one. -/
def appendFragment (target : String) (fragment : Option String) (maxBytes : Nat)
    (message : String) : CoreResult String :=
  match fragment with
  | none => .ok target
  | some fragment => appendBoundedFragment X target fragment maxBytes message

/-- The identity of a call: fixed once it was announced, assembled before. -/
def observeIdentity (idFragment nameFragment : Option String) (call : PartialToolCall) :
    CoreResult PartialToolCall :=
  if call.started.isSome then do
    require ((∀ fragment ∈ idFragment, fragment = call.id) ∧
        ∀ fragment ∈ nameFragment, fragment = call.name)
      (streamingError X.uuid "provider changed tool-call identity after arguments began")
    return call
  else do
    let id ← appendFragment X call.id idFragment maxToolCallIdBytes
      "provider tool-call id exceeded its safety limit"
    let name ← appendFragment X call.name nameFragment maxToolNameBytes
      "provider tool name exceeded its safety limit"
    return { call with id, name }

/-- The arguments of a call are kept until it is announced. -/
def observeArguments (arguments : Option String) (call : PartialToolCall) :
    CoreResult PartialToolCall :=
  match arguments with
  | none => .ok call
  | some arguments => do
    let delta ← (ToolCallArgumentsDelta.parse arguments).mapError fun _ =>
      streamingError X.uuid "provider returned invalid tool-call arguments"
    let bytes := call.pendingArgumentBytes + byteLen arguments
    require (bytes ≤ maxPendingToolArgumentBytes)
      (streamingError X.uuid "provider tool-call arguments exceeded its safety limit")
    return { call with
      pendingArgumentBytes := bytes, pendingArguments := call.pendingArguments ++ [delta] }

/-- The pending arguments of a call, as the events of its identifier. -/
def argumentEvents (id : ToolCallId) (pending : List ToolCallArgumentsDelta) :
    List ProviderEvent :=
  pending.map fun delta => .toolCallArgumentsDelta id delta

/-- Announce a call under its assembled identity, which must be new. -/
def announce (index : Nat) (call : PartialToolCall) (t : ToolCallTracker) :
    CoreResult (List ProviderEvent × ToolCallTracker) := do
  let id ← (ToolCallId.parse call.id).mapError fun _ =>
    streamingError X.uuid "provider returned an invalid tool-call id"
  let name ← (ToolName.parse call.name).mapError fun _ =>
    streamingError X.uuid "provider returned an invalid tool name"
  require (id ∉ t.startedIds) (streamingError X.uuid "provider reused a tool-call identifier")
  return (.toolCallStarted id name :: argumentEvents id call.pendingArguments,
    { calls := t.calls.insert index { call.flushed with started := some id }
      startedIds := insert id t.startedIds })

def startIfReady (index : Nat) (requireCompleteIdentity : Bool) (t : ToolCallTracker) :
    CoreResult (List ProviderEvent × ToolCallTracker) := do
  let call ← okOr (t.calls.get? index)
    (streamingError X.uuid "provider returned malformed tool-call state")
  match call.started with
  | some id =>
    return (argumentEvents id call.pendingArguments,
      { t with calls := t.calls.insert index call.flushed })
  | none =>
    if call.id = "" ∨ call.name = "" then do
      require (requireCompleteIdentity = false)
        (streamingError X.uuid "provider returned an incomplete tool-call identity")
      return ([], t)
    else if call.pendingArguments = [] ∧ requireCompleteIdentity = false then
      -- the name may still be cut in two
      return ([], t)
    else announce X index call t

def observeDelta (index : Nat) (defaultId kind idFragment : Option String)
    (function : Option FunctionCallDelta) (t : ToolCallTracker) :
    CoreResult (List ProviderEvent × ToolCallTracker) := do
  require (∀ stated ∈ kind, stated = "function")
    (streamingError X.uuid "provider returned an unsupported tool-call type")
  let call := (t.calls.get? index).getD .default
  let call := if call.id = "" then { call with id := defaultId.getD "" } else call
  let call ← observeIdentity X (nonEmpty idFragment)
    (nonEmpty (function.bind FunctionCallDelta.name)) call
  let call ← observeArguments X (nonEmpty (function.bind FunctionCallDelta.arguments)) call
  startIfReady X index false { t with calls := t.calls.insert index call }

/-- The loop over the tool calls of a delta. -/
def observeToolCalls : Nat → List ToolCallDelta → ToolCallTracker →
    CoreResult (List ProviderEvent × ToolCallTracker)
  | _, [], t => .ok ([], t)
  | position, delta :: deltas, t => do
    require (position ≤ u32Max) (streamingError X.uuid "provider returned too many tool calls")
    let index := delta.index.getD position
    require (index ≠ legacyFunctionCallIndex)
      (streamingError X.uuid "provider returned an invalid tool-call index")
    let (events, t) ← observeDelta X index none delta.kind delta.id delta.function t
    let (later, t) ← observeToolCalls (position + 1) deltas t
    return (events ++ later, t)

/-- The function call of the older protocol, which has one call and no identifier. -/
def observeFunctionCall (function : Option FunctionCallDelta) (t : ToolCallTracker) :
    CoreResult (List ProviderEvent × ToolCallTracker) :=
  match function with
  | none => .ok ([], t)
  | some function =>
    observeDelta X legacyFunctionCallIndex (some legacyFunctionCallId) (some "function") none
      (some function) t

def observeChoice (delta : StreamDelta) (t : ToolCallTracker) :
    CoreResult (List ProviderEvent × ToolCallTracker) := do
  let (events, t) ← observeToolCalls X 0 delta.toolCalls t
  let (later, t) ← observeFunctionCall X delta.functionCall t
  return (events ++ later, t)

/-- The loop of `finish_all` over the indexes, in their order. -/
def finishCalls : List Nat → ToolCallTracker →
    CoreResult (List ProviderEvent × ToolCallTracker)
  | [], t => .ok ([], t)
  | index :: indexes, t => do
    let (events, t) ← startIfReady X index true t
    let id ← okOr ((t.calls.get? index).bind PartialToolCall.started)
      (streamingError X.uuid "provider returned malformed tool-call state")
    let (later, t) ← finishCalls indexes t
    return (events ++ .toolCallCompleted id :: later, t)

def finishAll (t : ToolCallTracker) : CoreResult (List ProviderEvent × ToolCallTracker) :=
  finishCalls X t.calls.keys t

end Tracking

/-! ### Chunks -/

inductive SseStreamState
  | awaitingData
  | streaming
  | terminal
deriving DecidableEq

structure State where
  usage : GenerationUsage
  stream : SseStreamState
  toolCalls : ToolCallTracker
  reasoningDetails : OpenRouterReasoningTracker

def State.default : State := ⟨.default, .awaitingData, .default, .default⟩

/-- What the request asked for. -/
structure Mode where
  dialect : Dialect
  preserveOpaqueReasoningState : Bool

/-- Reasoning is collected for a later turn. -/
def Mode.collects (mode : Mode) : Bool :=
  mode.dialect = .openRouter && mode.preserveOpaqueReasoningState

section Processing

variable (X : ProviderExternals) (decodeChunk : Json → Option StreamChunk) (mode : Mode)

def StreamDelta.visibleReasoning (delta : StreamDelta) : CoreResult (Option String) :=
  match delta.reasoning, delta.reasoningContent with
  | some reasoning, some other => do
    require (reasoning = other)
      (streamingError X.uuid "provider returned conflicting reasoning fields")
    return some reasoning
  | some reasoning, none => return some reasoning
  | none, other => return other

/-- `update_usage`. -/
def updateUsage (streamUsage : Option StreamUsage) (usage : GenerationUsage) : GenerationUsage :=
  match streamUsage with
  | none => usage
  | some stream =>
    let prompt := stream.promptTokensDetails
    let completion := stream.completionTokensDetails
    { usage with
      inputTokens := stream.promptTokens.or usage.inputTokens
      outputTokens := stream.completionTokens.or usage.outputTokens
      cachedReadTokens := (prompt.bind PromptTokensDetails.cachedTokens).or usage.cachedReadTokens
      cachedWriteTokens :=
        (prompt.bind PromptTokensDetails.cacheWriteTokens).or usage.cachedWriteTokens
      reasoningTokens :=
        (completion.bind CompletionTokensDetails.reasoningTokens).or usage.reasoningTokens
      providerRawSummary := mergeUsageSummary X usage.providerRawSummary
        [("total_tokens", stream.totalTokens),
          ("prompt_tokens_details.audio_tokens", prompt.bind PromptTokensDetails.audioTokens),
          ("completion_tokens_details.audio_tokens",
            completion.bind CompletionTokensDetails.audioTokens),
          ("completion_tokens_details.accepted_prediction_tokens",
            completion.bind CompletionTokensDetails.acceptedPredictionTokens),
          ("completion_tokens_details.rejected_prediction_tokens",
            completion.bind CompletionTokensDetails.rejectedPredictionTokens)] }

variable (choices : List StreamChoice)

def validateChoiceSelection : CoreResult Unit :=
  match choices with
  | [] => .ok ()
  | [choice] => do
    require (choice.index = 0)
      (streamingError X.uuid "provider returned an unsupported choice selection")
    let _ ← choice.delta.visibleReasoning X
    return
  | _ => .error (streamingError X.uuid "provider returned an unsupported choice selection")

def parseStreamChunk (value : Json) : CoreResult StreamChunk := do
  let chunk ← okOr (decodeChunk value)
    (streamingError X.uuid "provider returned malformed streaming data")
  validateChoiceSelection X chunk.choices
  return chunk

variable (choice : StreamChoice)

/-- The choice carries something that counts as payload. -/
def carriesPayload : Bool :=
  let visible := choice.delta.visibleReasoning X
  (nonEmpty choice.delta.content).isSome || (match visible with
      | .ok reasoning => (nonEmpty reasoning).isSome
      | .error _ => false) ||
    !choice.delta.toolCalls.isEmpty || choice.delta.functionCall.isSome ||
    (mode.collects && ((match visible with
      | .ok reasoning => reasoning.isSome
      | .error _ => false) || choice.delta.reasoningDetails.isSome))

/-- Send a fragment if there is one. -/
def sendFragment (make : String → ProviderEvent) (fragment : Option String) : Response Unit :=
  match nonEmpty fragment with
  | none => return
  | some text => .send (make text)

/-- One choice of `emit_choice_deltas`. -/
def emitChoiceDelta (s : State) : Response State := do
  let reasoning ← choice.delta.visibleReasoning X
  let reasoningDetails ←
    s.reasoningDetails.observe X reasoning choice.delta.reasoningDetails mode.collects
  sendFragment .reasoningDelta reasoning
  sendFragment .textDelta choice.delta.content
  let (events, toolCalls) ← observeChoice X choice.delta s.toolCalls
  .sendAll events
  return { s with reasoningDetails, toolCalls }

/-- `emit_choice_deltas`. -/
def emitChoiceDeltas (s : State) : Response State :=
  forEachSend (emitChoiceDelta X mode) choices s

/-- What the finish reasons of a chunk say: whether there is one, and whether it is one of
    tool calls. -/
def finishReasons : List StreamChoice → CoreResult (Bool × Bool)
  | [] => .ok (false, false)
  | choice :: choices => do
    let here ← match choice.finishReason with
      | none => pure (false, false)
      | some reason =>
        if reason = "stop" ∨ reason = "length" ∨ reason = "content_filter" then pure (true, false)
        else if reason = "tool_calls" ∨ reason = "function_call" then pure (true, true)
        else .error (streamingError X.uuid "provider returned an unsupported finish reason")
    let later ← finishReasons choices
    return (here.1 || later.1, here.2 || later.2)

/-- The response ends: retained reasoning is sent, and every call is completed. -/
def concludeCalls (s : State) : Response State := do
  let (opaqueEvents, reasoningDetails) ←
    s.reasoningDetails.finish X (!s.toolCalls.calls.entries.isEmpty)
  .sendAll opaqueEvents
  let (events, toolCalls) ← finishAll X s.toolCalls
  .sendAll events
  return { s with reasoningDetails, toolCalls, stream := .terminal }

/-- `observe_finish_reasons`. -/
def observeFinishReasons (s : State) : Response State := do
  let (sawSupported, sawTool) ← finishReasons X choices
  if sawSupported then do
    require (¬ (sawTool = true ∧ s.toolCalls.calls.entries = []))
      (streamingError X.uuid "provider ended for tool calls without returning a tool call")
    concludeCalls X s
  else return s

/-- `process_terminal_trailer`. -/
def processTerminalTrailer (chunk : StreamChunk) (s : State) : CoreResult State := do
  require (chunk.choices.isEmpty = true)
    (streamingError X.uuid "provider returned choice data after a terminal finish reason")
  return { s with usage := updateUsage X chunk.usage s.usage }

/-- The chunk of a payload. -/
def parsePayload (data : String) : CoreResult StreamChunk := do
  let malformed := streamingError X.uuid "provider returned malformed streaming data"
  let value ← okOr (X.parseJson (asBytes data)) malformed
  require (value.isObject = true) malformed
  require (∀ error ∈ value.get? "error", error.isNull = true)
    (streamingError X.uuid "provider returned a streaming error")
  require (¬ ((value.get? "choices").isNone ∧ ∀ usage ∈ value.get? "usage", usage.isNull = true))
    malformed
  parseStreamChunk X decodeChunk value

/-- `[DONE]`. -/
def processDone (s : State) : CoreResult (State × EventAction) :=
  match s.stream with
  | .awaitingData => .error (streamingError X.uuid "provider stream completed without payload data")
  | .streaming =>
    .error (streamingError X.uuid "provider stream completed without a supported finish reason")
  | .terminal => .ok (s, .done)

/-- A chunk before the finish reason. -/
def processChunk (chunk : StreamChunk) (s : State) : Response State := do
  let stream := if chunk.choices.any (carriesPayload X mode) ∧ s.stream = .awaitingData then
    SseStreamState.streaming else s.stream
  let s ← emitChoiceDeltas X mode chunk.choices
    { s with stream, usage := updateUsage X chunk.usage s.usage }
  observeFinishReasons X chunk.choices s

/-- `process_event`. -/
def processEvent (event : Bytes) (s : State) : Response (State × EventAction) := do
  match ← eventData X.uuid "provider returned malformed streaming data" event with
  | none => return (s, .continue)
  | some data =>
    if data = "[DONE]" then
      liftM (processDone X s)
    else do
      let chunk ← parsePayload X decodeChunk data
      if s.stream = .terminal then do
        let s ← processTerminalTrailer X chunk s
        return (s, .continue)
      else do
        let s ← processChunk X mode chunk s
        return (s, .continue)

def networkError : NetworkFailure → CoreError
  | .timedOut => .new X.uuid .providerUnavailable "provider request timed out" true
  | _ => .new X.uuid .networkUnavailable "provider network request failed" true

/-- `SseStreamState::incomplete_error`. -/
def incompleteError : SseStreamState → CoreError
  | .awaitingData => streamingError X.uuid "provider returned an empty streaming response"
  | _ => streamingError X.uuid "provider stream ended before [DONE]"

def reader : SseReader State where
  maxEventBytes := maxSseBufferBytes
  maxStreamBytes := maxStreamBytes
  eventTooLarge := streamingError X.uuid "provider streaming event exceeded 1 MiB"
  streamTooLarge := streamingError X.uuid "provider stream exceeded 64 MiB"
  incompleteEvent := streamingError X.uuid "provider stream ended with an incomplete event"
  networkError := networkError X
  process := processEvent X decodeChunk mode
  usage := State.usage
  finish s := .error (incompleteError X s.stream)

/-- The read loop of `generate`. -/
def consumeStream (arrivals : List Arrival) : Response GenerationUsage :=
  (reader X decodeChunk mode).consume arrivals 0 [] .default

end Processing

/-! ### The calls of a response -/

section Calls

variable {log : List ProviderEvent} {P : Nat → Prop} {t : ToolCallTracker} {index : Nat}
  {call : PartialToolCall} {id : ToolCallId}

/-- The call at an index was announced under an identifier. -/
def AnnouncedAt (t : ToolCallTracker) (index : Nat) (id : ToolCallId) : Prop :=
  ∃ call, (index, call) ∈ t.calls.entries ∧ call.started = some id

/-- The identifiers that the indexes in `P` were announced under. -/
def announced (P : Nat → Prop) (t : ToolCallTracker) : Set ToolCallId :=
  {id | ∃ index, P index ∧ AnnouncedAt t index id}

/-- The tracker's account of the calls, while those at the indexes in `P` are open. -/
structure Books (P : Nat → Prop) (log : List ProviderEvent) (t : ToolCallTracker) : Prop where
  ledger : Ledger ProviderEvent.call? log (announced P t) (t.startedIds : Set ToolCallId)
  linked : ∀ index id, AnnouncedAt t index id → id ∈ t.startedIds
  distinct : ∀ index index' id, AnnouncedAt t index id → AnnouncedAt t index' id → index = index'

theorem announcedAt_insert (hcalls : t'.calls = t.calls.insert index call') {other : Nat} :
    AnnouncedAt t' other id ↔
      other = index ∧ call'.started = some id ∨ other ≠ index ∧ AnnouncedAt t other id := by
  simp only [AnnouncedAt, hcalls, SortedMap.mem_insert]
  constructor
  · rintro ⟨found, ⟨rfl, rfl⟩ | ⟨hne, hmem⟩, hstarted⟩
    · exact .inl ⟨rfl, hstarted⟩
    · exact .inr ⟨hne, found, hmem, hstarted⟩
  · rintro (⟨rfl, hstarted⟩ | ⟨hne, found, hmem, hstarted⟩)
    · exact ⟨call', .inl ⟨rfl, rfl⟩, hstarted⟩
    · exact ⟨found, .inr ⟨hne, hmem⟩, hstarted⟩

theorem announcedAt_iff :
    AnnouncedAt t index id ↔ (t.calls.get? index).bind PartialToolCall.started = some id := by
  rw [Option.bind_eq_some_iff]
  exact exists_congr fun call => and_congr_left fun _ => SortedMap.get?_eq_some.symm

/-- A call is rewritten without its announcement being touched. -/
theorem announcedAt_rewrite (hcalls : t'.calls = t.calls.insert index call')
    (hstarted : call'.started = (t.calls.get? index).bind PartialToolCall.started) (other : Nat) :
    AnnouncedAt t' other id ↔ AnnouncedAt t other id := by
  rw [announcedAt_insert hcalls, hstarted, ← announcedAt_iff]
  constructor
  · rintro (⟨rfl, h⟩ | ⟨_, h⟩)
    · exact h
    · exact h
  · intro h
    by_cases hoth : other = index
    · exact .inl ⟨hoth, hoth ▸ h⟩
    · exact .inr ⟨hoth, h⟩

theorem Books.rewrite (h : Books P log t) (hcalls : t'.calls = t.calls.insert index call')
    (hids : t'.startedIds = t.startedIds)
    (hstarted : call'.started = (t.calls.get? index).bind PartialToolCall.started) :
    Books P log t' := by
  have hsame {id : ToolCallId} (other : Nat) : AnnouncedAt t' other id ↔ AnnouncedAt t other id :=
    announcedAt_rewrite hcalls hstarted other
  have hannd : announced P t' = announced P t := by
    ext id
    exact exists_congr fun other => and_congr_right fun _ => hsame other
  refine ⟨?_, ?_, ?_⟩
  · rw [hannd, hids]
    exact h.ledger
  · intro other id hat
    rw [hids]
    exact h.linked other id ((hsame other).mp hat)
  · intro other other' id hat hat'
    exact h.distinct other other' id ((hsame other).mp hat) ((hsame other').mp hat')

theorem view_argumentEvents {pending : List ToolCallArgumentsDelta} :
    ∀ event ∈ argumentEvents id pending, event.call? = some (id, .within) := by
  refine forall_mem_map.mpr fun delta _ => ?_
  rfl

/-- A call is announced under a new identifier, and its pending arguments follow. -/
theorem Books.start (h : Books P log t) (hidx : P index)
    (hsil : ∀ other, ¬ AnnouncedAt t index other) (hnew : id ∉ t.startedIds)
    (hcalls : t'.calls = t.calls.insert index call') (hstarted : call'.started = some id)
    (hids : t'.startedIds = insert id t.startedIds) (name : ToolName)
    (pending : List ToolCallArgumentsDelta) :
    Books P (log ++ .toolCallStarted id name :: argumentEvents id pending) t' := by
  have hat {other : Nat} {id' : ToolCallId} : AnnouncedAt t' other id' ↔
      other = index ∧ id = id' ∨ other ≠ index ∧ AnnouncedAt t other id' := by
    rw [announcedAt_insert hcalls, hstarted, Option.some.injEq]
  have hoth {other : Nat} {id' : ToolCallId} (h' : AnnouncedAt t other id') : other ≠ index := by
    rintro rfl
    exact hsil id' h'
  have hannd : announced P t' = insert id (announced P t) := by
    ext id'
    constructor
    · rintro ⟨other, hP, h'⟩
      rcases hat.mp h' with ⟨_, rfl⟩ | ⟨_, h'⟩
      · exact .inl rfl
      · exact .inr ⟨other, hP, h'⟩
    · rintro (rfl | ⟨other, hP, h'⟩)
      · exact ⟨index, hidx, hat.mpr (.inl ⟨rfl, rfl⟩)⟩
      · exact ⟨other, hP, hat.mpr (.inr ⟨hoth h', h'⟩)⟩
  have hunused {other : Nat} : ¬ AnnouncedAt t other id := fun h' => hnew (h.linked other id h')
  refine ⟨?_, ?_, ?_⟩
  · rw [hannd, hids, Finset.coe_insert, append_cons]
    exact (h.ledger.start rfl (by simpa using hnew)).insideAll (Set.mem_insert id _)
      view_argumentEvents
  · intro other id' h'
    rw [hids, Finset.mem_insert]
    rcases hat.mp h' with ⟨_, rfl⟩ | ⟨_, h'⟩
    · exact .inl rfl
    · exact .inr (h.linked other id' h')
  · intro other other' id' h₁ h₂
    rcases hat.mp h₁ with ⟨rfl, rfl⟩ | ⟨_, h₁⟩ <;> rcases hat.mp h₂ with ⟨rfl, hid⟩ | ⟨_, h₂⟩
    · rfl
    · exact absurd h₂ hunused
    · exact absurd h₁ (hid ▸ hunused)
    · exact h.distinct other other' id' h₁ h₂

/-- **`start_if_ready`** keeps the books of the open calls. -/
theorem startIfReady_books (h : Books P log t) (hidx : P index) {complete : Bool}
    (hok : startIfReady X index complete t = .ok out) : Books P (log ++ out.1) out.2 := by
  obtain ⟨call, hcall, hok⟩ := bind_ok.mp hok
  have hget : t.calls.get? index = some call := okOr_ok.mp hcall
  cases hstarted : call.started with
  | some id =>
    simp only [hstarted] at hok
    cases hok
    have hsame : call.flushed.started = (t.calls.get? index).bind PartialToolCall.started := by
      rw [hget]
      rfl
    have hbooks : Books P log { t with calls := t.calls.insert index call.flushed } :=
      h.rewrite rfl rfl hsame
    have hopen : id ∈ announced P { t with calls := t.calls.insert index call.flushed } := by
      refine ⟨index, hidx, (announcedAt_rewrite rfl hsame index).mpr ?_⟩
      rw [announcedAt_iff, hget]
      exact hstarted
    exact ⟨hbooks.ledger.insideAll hopen view_argumentEvents, hbooks.linked, hbooks.distinct⟩
  | none =>
    simp only [hstarted] at hok
    split at hok
    · obtain ⟨_, hok⟩ := guard_ok.mp hok
      cases hok
      rw [append_nil]
      exact h
    · split at hok
      · cases hok
        rw [append_nil]
        exact h
      · obtain ⟨id, _, name, _, hok⟩ := steps₂ hok
        obtain ⟨hnew, hok⟩ := guard_ok.mp hok
        cases hok
        refine h.start hidx (fun other => ?_) hnew rfl rfl rfl name call.pendingArguments
        rw [announcedAt_iff, hget]
        simp [hstarted]

theorem observeIdentity_started (hok : observeIdentity X idFragment nameFragment call = .ok call') :
    call'.started = call.started := by
  unfold observeIdentity at hok
  split at hok
  · obtain ⟨_, hok⟩ := guard_ok.mp hok
    cases hok
    rfl
  · obtain ⟨_, _, hok⟩ := rest₂ hok
    cases hok
    rfl

theorem observeArguments_started (hok : observeArguments X arguments call = .ok call') :
    call'.started = call.started := by
  cases arguments with
  | none =>
    cases hok
    rfl
  | some arguments =>
    obtain ⟨_, _, hok⟩ := rest₂ hok
    cases hok
    rfl

/-- **One delta of a call.** -/
theorem observeDelta_books (h : Books P log t) (hidx : P index)
    {defaultId kind idFragment : Option String}
    (hok : observeDelta X index defaultId kind idFragment function t = .ok out) :
    Books P (log ++ out.1) out.2 := by
  obtain ⟨_, hok⟩ := guard_ok.mp hok
  obtain ⟨identified, hident, completed, hargs, hok⟩ := steps₂ hok
  have hbooks : Books P log { t with calls := t.calls.insert index completed } := by
    refine h.rewrite rfl rfl ?_
    rw [observeArguments_started hargs, observeIdentity_started hident]
    -- the default identifier is not an announcement
    have hdflt : ∀ call : PartialToolCall,
        (if call.id = "" then { call with id := defaultId.getD "" } else call).started =
          call.started := by
      intro call
      split <;> rfl
    rw [hdflt]
    cases t.calls.get? index with
    | none => rfl
    | some call => rfl
  exact startIfReady_books hbooks hidx hok

/-- A call is completed: its index is not among the open ones any more. -/
theorem Books.complete (h : Books (· ∈ index :: rest) log t) (hidx : index ∉ rest)
    (hat : AnnouncedAt t index id) :
    Books (· ∈ rest) (log ++ [.toolCallCompleted id]) t := by
  have hopen : id ∈ announced (· ∈ index :: rest) t := ⟨index, mem_cons_self, hat⟩
  have hleft : announced (· ∈ index :: rest) t \ {id} = announced (· ∈ rest) t := by
    ext id'
    constructor
    · rintro ⟨⟨other, hoth, hat'⟩, hne⟩
      rcases mem_cons.mp hoth with rfl | hoth
      · have hsame : id' = id := by
          rw [announcedAt_iff] at hat hat'
          exact Option.some.inj (hat'.symm.trans hat)
        exact absurd hsame hne
      · exact ⟨other, hoth, hat'⟩
    · rintro ⟨other, hoth, hat'⟩
      refine ⟨⟨other, mem_cons_of_mem index hoth, hat'⟩, ?_⟩
      rintro rfl
      exact hidx (h.distinct _ _ _ hat hat' ▸ hoth)
  refine ⟨?_, h.linked, h.distinct⟩
  rw [← hleft]
  exact h.ledger.finish rfl hopen

theorem books_default : Books (fun _ => True) [] .default := by
  have hnone : announced (fun _ => True) .default = ∅ := by
    refine Set.eq_empty_iff_forall_notMem.mpr ?_
    rintro id ⟨index, _, call, hmem, _⟩
    cases hmem
  refine ⟨?_, ?_, ?_⟩
  · rw [hnone]
    show Ledger ProviderEvent.call? [] ∅ ((∅ : Finset ToolCallId) : Set ToolCallId)
    rw [Finset.coe_empty]
    exact Ledger.nil
  · rintro index id ⟨call, hmem, _⟩
    cases hmem
  · rintro index index' id ⟨call, hmem, _⟩
    cases hmem

/-- The calls that are open are those at the indexes of the tracker. -/
theorem Books.keys (h : Books (fun _ => True) log t) : Books (· ∈ t.calls.keys) log t := by
  have hkeys : announced (fun _ => True) t = announced (· ∈ t.calls.keys) t := by
    ext id
    constructor
    · rintro ⟨index, _, call, hmem, hstarted⟩
      exact ⟨index, mem_map.mpr ⟨(index, call), hmem, rfl⟩, call, hmem, hstarted⟩
    · rintro ⟨index, _, hat⟩
      exact ⟨index, trivial, hat⟩
  exact ⟨hkeys ▸ h.ledger, h.linked, h.distinct⟩

theorem Books.skip (h : Books P log t) (hview : event.call? = none) :
    Books P (log ++ [event]) t :=
  ⟨h.ledger.skip hview, h.linked, h.distinct⟩

end Calls

end LorePia.Providers.OpenAiCompatible
