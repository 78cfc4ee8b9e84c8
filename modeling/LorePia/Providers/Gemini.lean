import LorePia.Providers.WholeCalls

namespace LorePia.Providers.Gemini

open Lib Providers After Ledger ProviderEvent WholeCalls.Settled

/-!
# Providers — Gemini's `generateContent`

A response is a sequence of server-sent events or one JSON document; both are processed by
`process_response`.  No event ends the stream: the adapter reads to its end, and accepts the
response if a supported part and a finish reason were seen.  `Deserialize` of a response is
derived; its decoder is a parameter.
-/

def maxSseEventBytes : Nat := 1024 * 1024
def maxResponseBytes : Nat := 32 * 1024 * 1024
def maxEmittedTextBytes : Nat := 16 * 1024 * 1024
def maxGeminiResponseParts : Nat := 4 * 1024
def maxThoughtSignatureBytes : Nat := 64 * 1024

def words : WholeCallWords where
  provider := "Gemini"
  generatedId := "gemini-call-"
  maxToolCalls := 128

structure GeminiFunctionCall where
  id : Option String
  name : Option String
  args : Option Json

/-- `other` are the fields that the adapter does not know. -/
structure ResponsePart where
  text : Option String
  thought : Bool
  thoughtSignature : Option String
  functionCall : Option GeminiFunctionCall
  other : List (String × Json)

structure ResponseContent where
  role : Option String
  parts : List ResponsePart

structure Candidate where
  content : Option ResponseContent
  finishReason : Option String
  index : Option Nat

structure PromptFeedback where
  blockReason : Option String

structure UsageMetadata where
  promptTokenCount : Option Nat
  cachedContentTokenCount : Option Nat
  candidatesTokenCount : Option Nat
  toolUsePromptTokenCount : Option Nat
  thoughtsTokenCount : Option Nat
  totalTokenCount : Option Nat

structure GenerateContentResponse where
  candidates : List Candidate
  promptFeedback : Option PromptFeedback
  usageMetadata : Option UsageMetadata

inductive ResponseProgress
  | empty
  | responseOnly
  | candidate
  | supportedContent
  | terminalWithoutContent
  | terminalWithContent

namespace ResponseProgress

def observeResponse : ResponseProgress → ResponseProgress
  | .empty => .responseOnly
  | progress => progress

def observeCandidate : ResponseProgress → ResponseProgress
  | .empty | .responseOnly => .candidate
  | progress => progress

def observeTerminal : ResponseProgress → ResponseProgress
  | .supportedContent => .terminalWithContent
  | _ => .terminalWithoutContent

def isTerminal : ResponseProgress → Bool
  | .terminalWithoutContent | .terminalWithContent => true
  | _ => false

end ResponseProgress

structure ResponseState where
  progress : ResponseProgress
  emittedTextBytes : Nat
  responseParts : Nat
  calls : WholeCalls
  usage : GenerationUsage

def ResponseState.default : ResponseState := ⟨.empty, 0, 0, .default, .default⟩

section Processing

variable (X : ProviderExternals) (decodeResponse : Json → Option GenerateContentResponse)

/-- `streaming_error`, with the name of the provider in front. -/
def geminiError (message : String) : CoreError := streamingError X.uuid ("Gemini " ++ message)

def responseTooLarge : CoreError :=
  geminiError X "response exceeded the configured size limit"

/-- `ResponseState::finish`. -/
def ResponseState.finish (s : ResponseState) : CoreResult GenerationUsage :=
  match s.progress with
  | .empty => .error (geminiError X "returned an empty response")
  | .responseOnly => .error (geminiError X "response did not contain a candidate")
  | .candidate | .terminalWithoutContent =>
    .error (geminiError X "response did not contain a supported content part")
  | .supportedContent => .error (geminiError X "response ended without a finish reason")
  | .terminalWithContent => .ok s.usage

def emitGeminiFunctionCall (call : GeminiFunctionCall) (s : ResponseState) :
    Response ResponseState := do
  let calls ← emitWholeCall X words ⟨call.id, call.name, call.args⟩ s.calls
  return { s with calls }

def validateThoughtSignature : Option String → CoreResult Unit
  | none => .ok ()
  | some signature => do
    require (byteLen signature ≤ maxThoughtSignatureBytes)
      (geminiError X "thought signature exceeded its safety limit")
    let decoded ← okOr (X.decodeBase64 signature)
      (geminiError X "returned malformed opaque reasoning state")
    require (X.encodeBase64 decoded = signature ∧ decoded ≠ [])
      (geminiError X "returned malformed opaque reasoning state")

/-- The text of a part, as a thought or as an answer. -/
def emitText (text : String) (thought : Bool) (s : ResponseState) : Response ResponseState := do
  let emittedTextBytes ← okOr (checkedAdd s.emittedTextBytes (byteLen text)) (responseTooLarge X)
  require (emittedTextBytes ≤ maxEmittedTextBytes) (responseTooLarge X)
  .send (if thought then .reasoningDelta text else .textDelta text)
  return { s with emittedTextBytes }

/-- What a supported part sends. -/
def emitPart (part : ResponsePart) (s : ResponseState) : Response ResponseState :=
  match part.functionCall, part.text with
  | some call, _ => emitGeminiFunctionCall X call s
  | none, some text => if text = "" then return s else emitText X text part.thought s
  | none, none => return s

def processResponsePart (part : ResponsePart) (s : ResponseState) : Response ResponseState := do
  require (s.responseParts + 1 ≤ maxGeminiResponseParts)
    (geminiError X "returned too many response parts")
  require (part.other = []) (geminiError X "returned an unsupported response part")
  require (¬ (part.text.isNone ∧ part.functionCall.isNone))
    (geminiError X "returned a response part without supported content")
  require (¬ (part.text.isSome ∧ part.functionCall.isSome))
    (geminiError X "returned conflicting response part content")
  require (¬ (part.thought = true ∧ part.functionCall.isSome))
    (geminiError X "returned a thought marker on a function-call part")
  validateThoughtSignature X part.thoughtSignature
  emitPart X part
    { s with responseParts := s.responseParts + 1, progress := .supportedContent }

def updateUsage (metadata : Option UsageMetadata) (usage : GenerationUsage) : GenerationUsage :=
  match metadata with
  | none => usage
  | some metadata =>
    { usage with
      inputTokens := metadata.promptTokenCount.or usage.inputTokens
      outputTokens := metadata.candidatesTokenCount.or usage.outputTokens
      cachedReadTokens := metadata.cachedContentTokenCount.or usage.cachedReadTokens
      reasoningTokens := metadata.thoughtsTokenCount.or usage.reasoningTokens
      toolTokens := metadata.toolUsePromptTokenCount.or usage.toolTokens
      providerRawSummary := mergeUsageSummary X usage.providerRawSummary
        [("totalTokenCount", metadata.totalTokenCount)] }

/-- The finish reasons of a provider policy. -/
def policyFinishReasons : List String :=
  ["SAFETY", "RECITATION", "LANGUAGE", "BLOCKLIST", "PROHIBITED_CONTENT", "SPII", "IMAGE_SAFETY",
    "IMAGE_PROHIBITED_CONTENT", "IMAGE_OTHER", "NO_IMAGE", "IMAGE_RECITATION", "ESCALATION"]

/-- The finish reasons of a response that could not be produced. -/
def unsupportedFinishReasons : List String :=
  ["MALFORMED_FUNCTION_CALL", "UNEXPECTED_TOOL_CALL", "TOO_MANY_TOOL_CALLS",
    "MISSING_THOUGHT_SIGNATURE", "MALFORMED_RESPONSE"]

def observeFinishReason (reason : String) : CoreResult Unit :=
  if reason = "STOP" ∨ reason = "MAX_TOKENS" then .ok ()
  else if reason ∈ policyFinishReasons then
    .error (.new X.uuid .providerUnavailable "Gemini stopped generation due to provider policy"
      false)
  else if reason ∈ unsupportedFinishReasons then
    .error (geminiError X "could not produce a supported response")
  else if reason = "OTHER" then
    .error (geminiError X "stopped generation without a supported result")
  else .error (geminiError X "returned an unsupported finish reason")

/-- The parts of a candidate. -/
def processContent (content : Option ResponseContent) (s : ResponseState) :
    Response ResponseState :=
  match content with
  | none => return s
  | some content => do
    require (∀ role ∈ content.role, role = "model")
      (geminiError X "returned content with an unexpected role")
    forEachSend (processResponsePart X) content.parts s

/-- The finish reason of a candidate. -/
def processFinishReason (reason : Option String) (s : ResponseState) :
    CoreResult ResponseState :=
  match reason with
  | none => return s
  | some reason => do
    observeFinishReason X reason
    return { s with progress := s.progress.observeTerminal }

def processCandidate (candidate : Candidate) (s : ResponseState) : Response ResponseState := do
  require (∀ index ∈ candidate.index, index = 0)
    (geminiError X "returned an unexpected candidate index")
  require (s.progress.isTerminal = false)
    (geminiError X "returned candidate data after a finish reason")
  let s ← processContent X candidate.content
    { s with progress := s.progress.observeCandidate }
  processFinishReason X candidate.finishReason s

def processResponse (response : GenerateContentResponse) (s : ResponseState) :
    Response ResponseState := do
  require ((response.promptFeedback.bind PromptFeedback.blockReason) = none)
    (CoreError.new X.uuid .providerUnavailable "Gemini blocked the prompt" false)
  let s := { s with
    progress := s.progress.observeResponse, usage := updateUsage X response.usageMetadata s.usage }
  match response.candidates with
  | [] => return s
  | [candidate] => processCandidate X candidate s
  | _ => .fail (geminiError X "returned multiple response candidates")

def parseResponse (bytes : Bytes) : CoreResult GenerateContentResponse := do
  let malformed := geminiError X "returned malformed response data"
  let value ← okOr (X.parseJson bytes) malformed
  require (value.isObject = true) malformed
  require (∀ error ∈ value.get? "error", error.isNull = true)
    (geminiError X "returned a response error")
  require (((value.get? "candidates").isSome || (value.get? "usageMetadata").isSome ||
    (value.get? "promptFeedback").isSome) = true) malformed
  okOr (decodeResponse value) malformed

/-- `process_sse_event`; no event is terminal. -/
def processSseEvent (event : Bytes) (s : ResponseState) :
    Response (ResponseState × EventAction) := do
  match ← eventData X.uuid "Gemini returned malformed SSE data" event with
  | none => return (s, .continue)
  | some data =>
    require (data ≠ "[DONE]") (geminiError X "returned an unsupported SSE terminal marker")
    let response ← parseResponse X decodeResponse (asBytes data)
    let s ← processResponse X response s
    return (s, .continue)

def networkError : NetworkFailure → CoreError
  | .timedOut => .new X.uuid .providerUnavailable "Gemini request timed out" true
  | _ => .new X.uuid .networkUnavailable "Gemini network request failed" true

def reader : SseReader ResponseState where
  maxEventBytes := maxSseEventBytes
  maxStreamBytes := maxResponseBytes
  eventTooLarge := geminiError X "SSE event exceeded 1 MiB"
  streamTooLarge := responseTooLarge X
  incompleteEvent := geminiError X "stream ended with an incomplete SSE event"
  networkError := networkError X
  process := processSseEvent X decodeResponse
  usage := ResponseState.usage
  finish s := s.finish X

variable (arrivals : List Arrival)

/-- `consume_sse`. -/
def consumeSse : Response GenerationUsage :=
  (reader X decodeResponse).consume arrivals 0 [] .default

/-- The body of a unary response. -/
def collectBody : List Arrival → Bytes → CoreResult Bytes
  | [], body => .ok body
  | .error failure :: _, _ => .error (networkError X failure)
  | .ok chunk :: arrivals, body => do
    require (saturatingAdd body.length chunk.length ≤ maxResponseBytes) (responseTooLarge X)
    collectBody arrivals (body ++ chunk)

/-- `consume_unary`. -/
def consumeUnary : Response GenerationUsage := do
  let body ← collectBody X arrivals []
  require (body ≠ []) (geminiError X "returned an empty response")
  let response ← parseResponse X decodeResponse body
  let s ← processResponse X response .default
  s.finish X

end Processing

/-! ### The calls of a response -/

section Calls

variable {log : List ProviderEvent} {s : ResponseState}

/-- The calls of the state are settled. -/
def Settled (log : List ProviderEvent) (s : ResponseState) : Prop := s.calls.Settled log

theorem emitPart_after (part : ResponsePart) (h : Settled log s) :
    After log (emitPart X part s) Settled := by
  unfold emitPart
  split
  · exact (emitWholeCall_after _ h).bind fun _ _ h' => after_pure h'
  · refine .ite (fun _ => after_pure h) fun _ => ?_
    refine lift_bind fun _ _ => require_bind fun _ => ?_
    by_cases hthought : part.thought = true
    · rw [if_pos hthought]
      exact After.send_bind (after_pure (WholeCalls.Settled.skip h rfl))
    · rw [if_neg hthought]
      exact After.send_bind (after_pure (WholeCalls.Settled.skip h rfl))
  · exact after_pure h

theorem processResponsePart_after (part : ResponsePart) (h : Settled log s) :
    After log (processResponsePart X part s) Settled := by
  unfold processResponsePart
  refine require_bind fun _ => require_bind fun _ => require_bind fun _ =>
    require_bind fun _ => require_bind fun _ => lift_bind fun _ _ => ?_
  exact emitPart_after part h

theorem processFinishReason_calls {reason : Option String}
    (h : processFinishReason X reason s = .ok s') : s'.calls = s.calls := by
  cases reason with
  | none =>
    cases h
    rfl
  | some reason =>
    obtain ⟨_, _, h⟩ := bind_ok.mp h
    cases h
    rfl

theorem processCandidate_after (candidate : Candidate) (h : Settled log s) :
    After log (processCandidate X candidate s) Settled := by
  unfold processCandidate
  refine require_bind fun _ => require_bind fun _ => ?_
  refine .bind (Q := Settled) ?_ fun log' s' h' => after_lift fun s'' hs'' => ?_
  · cases candidate.content with
    | none => exact after_pure h
    | some content =>
      refine require_bind fun _ => ?_
      exact forEachSend (fun _ part _ h' => processResponsePart_after part h') _ h
  · show s''.calls.Settled log'
    rw [processFinishReason_calls hs'']
    exact h'

/-- **One response.** -/
theorem processResponse_after (response : GenerateContentResponse) (h : Settled log s) :
    After log (processResponse X response s) Settled := by
  unfold processResponse
  refine require_bind fun _ => ?_
  split
  · exact after_pure h
  · exact processCandidate_after _ h
  · exact after_fail

theorem processSseEvent_keeps :
    (reader X decodeResponse).Keeps (fun log _ s => Settled log s) (fun log _ s => Settled log s) := by
  intro log frames s event h
  show After log (processSseEvent X decodeResponse event s) _
  unfold processSseEvent
  refine lift_bind fun data _ => ?_
  cases data with
  | none => exact after_pure h
  | some data =>
    refine require_bind fun _ => lift_bind fun response _ => ?_
    exact (processResponse_after response h).bind fun _ _ h' => after_pure h'

/-- **The Gemini adapter, streaming.** -/
theorem consumeSse_wellBracketed {arrivals : List Arrival}
    (h : (consumeSse X decodeResponse arrivals).result = .ok usage) :
    WellBracketed call? (consumeSse X decodeResponse arrivals).sent := by
  have hstart : Settled [] .default := default
  rcases SseReader.consume_run processSseEvent_keeps hstart h with ⟨_, _, s, _, hsett, _⟩ | ⟨s, hsett, _⟩
  · exact wellBracketed hsett
  · exact wellBracketed hsett

/-- **The Gemini adapter, unary.** -/
theorem consumeUnary_wellBracketed {arrivals : List Arrival}
    (h : (consumeUnary X decodeResponse arrivals).result = .ok usage) :
    WellBracketed call? (consumeUnary X decodeResponse arrivals).sent := by
  have hstart : Settled [] .default := default
  have hrun : After [] (consumeUnary X decodeResponse arrivals) fun log _ =>
      ∃ s, Settled log s := by
    unfold consumeUnary
    refine lift_bind fun _ _ => require_bind fun _ => lift_bind fun response _ => ?_
    refine (processResponse_after response hstart).bind fun log s hs => ?_
    exact after_lift fun _ _ => ⟨s, hs⟩
  obtain ⟨s, hsett⟩ := hrun usage h
  exact wellBracketed hsett

end Calls

end LorePia.Providers.Gemini
