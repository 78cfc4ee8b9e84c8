import LorePia.Providers.WholeCalls

namespace LorePia.Providers.Ollama

open Lib Providers After

/-!
# Providers — the native Ollama API

A response is a sequence of JSON lines; the line with `done` ends it.  `Deserialize` of a chunk
is derived; its decoder is a parameter.
-/

def maxJsonlLineBytes : Nat := 1024 * 1024
def maxStreamBytes : Nat := 64 * 1024 * 1024

def words : WholeCallWords where
  provider := "Ollama"
  generatedId := "ollama-call-"
  maxToolCalls := 128

structure OllamaFunctionCall where
  name : Option String
  arguments : Option Json

structure OllamaToolCall where
  id : Option String
  function : OllamaFunctionCall

structure ChatResponseMessage where
  role : Option String
  content : String
  thinking : String
  toolCalls : List OllamaToolCall

structure ChatChunk where
  message : Option ChatResponseMessage
  done : Option Bool
  totalDuration : Option Nat
  loadDuration : Option Nat
  promptEvalCount : Option Nat
  promptEvalDuration : Option Nat
  evalCount : Option Nat
  evalDuration : Option Nat

structure ChatStreamState where
  sawPayload : Bool
  calls : WholeCalls
  usage : GenerationUsage

def ChatStreamState.default : ChatStreamState := ⟨false, .default, .default⟩

section Processing

variable (X : ProviderExternals) (decodeChunk : Json → Option ChatChunk)

def emitOllamaToolCall (call : OllamaToolCall) (s : ChatStreamState) :
    Response ChatStreamState := do
  let calls ← emitWholeCall X words ⟨call.id, call.function.name, call.function.arguments⟩ s.calls
  return { s with calls }

def malformed : CoreError := streamingError X.uuid "Ollama returned malformed streaming data"

/-- The chunk of a line, with its two required fields. -/
def parseChunk (line : Bytes) : CoreResult (ChatChunk × Bool × ChatResponseMessage) := do
  let value ← okOr (X.parseJson line) (malformed X)
  require (value.isObject = true) (malformed X)
  require (∀ error ∈ value.get? "error", error.isNull = true)
    (streamingError X.uuid "Ollama returned a streaming error")
  let chunk ← okOr (decodeChunk value) (malformed X)
  let done ← okOr chunk.done (malformed X)
  let message ← okOr chunk.message (malformed X)
  return (chunk, done, message)

def updateUsage (chunk : ChatChunk) (usage : GenerationUsage) : GenerationUsage :=
  { usage with
    inputTokens := chunk.promptEvalCount.or usage.inputTokens
    outputTokens := chunk.evalCount.or usage.outputTokens
    providerRawSummary := mergeUsageSummary X usage.providerRawSummary
      [("total_duration", chunk.totalDuration), ("load_duration", chunk.loadDuration),
        ("prompt_eval_duration", chunk.promptEvalDuration), ("eval_duration", chunk.evalDuration)] }

/-- `u8::is_ascii_whitespace`. -/
def isAsciiWhitespace (byte : UInt8) : Bool :=
  byte == 32 || byte == 9 || byte == 10 || byte == 12 || byte == 13

def processChatLine (line : Bytes) (s : ChatStreamState) :
    Response (ChatStreamState × EventAction) :=
  if line.all isAsciiWhitespace then return (s, .continue)
  else do
    let (chunk, done, message) ← parseChunk X decodeChunk line
    let s := { s with sawPayload := true, usage := updateUsage X chunk s.usage }
    require (message.role = some "assistant")
      (streamingError X.uuid "Ollama returned a non-assistant chat message")
    .onlyIf (message.thinking ≠ "") (.send (.reasoningDelta message.thinking))
    .onlyIf (message.content ≠ "") (.send (.textDelta message.content))
    let s ← forEachSend (emitOllamaToolCall X) message.toolCalls s
    return (s, if done then .done else .continue)

/-! ### Lines -/

/-- `split_inclusive(|byte| *byte == b'\n')`. -/
def splitInclusive : Bytes → List Bytes
  | [] => []
  | byte :: bytes =>
    if byte = lineFeed then [byte] :: splitInclusive bytes
    else
      match splitInclusive bytes with
      | [] => [[byte]]
      | segment :: segments => (byte :: segment) :: segments

/-- `pending.pop()` behind a carriage return. -/
def withoutCarriageReturn (bytes : Bytes) : Bytes :=
  if bytes.getLast? = some carriageReturn then bytes.dropLast else bytes

def lineTooLarge : CoreError := streamingError X.uuid "Ollama streaming line exceeded 1 MiB"

def ensureJsonlLineSize (size : Nat) : CoreResult Unit :=
  require (size ≤ maxJsonlLineBytes) (lineTooLarge X)

/-- `ensure_pending_jsonl_size`. -/
def ensurePendingJsonlSize (pending : Bytes) : CoreResult Unit :=
  ensureJsonlLineSize X (pending.length - if pending.getLast? = some carriageReturn then 1 else 0)

/-- One segment of a chunk: the line it completes, if it does, and what is pending then. -/
def takeSegment (segment pending : Bytes) :
    CoreResult (Option Bytes × Bytes) := do
  let terminated := segment.getLast? = some lineFeed
  let content := if terminated then segment.dropLast else segment
  let endsWithCarriageReturn := (content.getLast?.or pending.getLast?) = some carriageReturn
  ensureJsonlLineSize X
    (pending.length + content.length - if terminated ∧ endsWithCarriageReturn then 1 else 0)
  if terminated then return (some (withoutCarriageReturn (pending ++ content)), [])
  else return (none, pending ++ content)

/-- The loop over the segments of a chunk. -/
def processSegments : List Bytes → Bytes → ChatStreamState →
    Response (ChatStreamState × Bytes × EventAction)
  | [], pending, s => pure (s, pending, .continue)
  | segment :: segments, pending, s => do
    match ← takeSegment X segment pending with
    | (none, pending) => processSegments segments pending s
    | (some line, pending) =>
      let (s, action) ← processChatLine X decodeChunk line s
      if action = .done then return (s, pending, .done)
      processSegments segments pending s

/-- `network_error`. -/
def networkError : NetworkFailure → CoreError
  | .timedOut => .new X.uuid .providerUnavailable "Ollama request timed out" true
  | .connect => .new X.uuid .networkUnavailable "could not connect to Ollama" true
  | .other => .new X.uuid .networkUnavailable "Ollama request failed" true

def streamTooLarge : CoreError := streamingError X.uuid "Ollama stream exceeded 64 MiB"

/-- The end of a stream whose last line did not end it. -/
def incomplete (s : ChatStreamState) : CoreError :=
  if s.sawPayload then
    streamingError X.uuid "Ollama stream ended before its terminal response"
  else streamingError X.uuid "Ollama returned an empty streaming response"

/-- What follows the read loop: a last line without a line feed. -/
def finishChatStream (pending : Bytes) (s : ChatStreamState) : Response GenerationUsage := do
  let pending := withoutCarriageReturn pending
  ensureJsonlLineSize X pending.length
  if pending = [] then .fail (incomplete X s)
  else do
    let (s, action) ← processChatLine X decodeChunk pending s
    if action = .done then return s.usage
    .fail (incomplete X s)

/-- The read loop. -/
def consumeChunks : List Arrival → Nat → Bytes → ChatStreamState → Response GenerationUsage
  | [], _, pending, s => finishChatStream X decodeChunk pending s
  | .error failure :: _, _, _, _ => .fail (networkError X failure)
  | .ok chunk :: arrivals, totalStreamBytes, pending, s => do
    let totalStreamBytes ← okOr (checkedAdd totalStreamBytes chunk.length) (streamTooLarge X)
    require (totalStreamBytes ≤ maxStreamBytes) (streamTooLarge X)
    let (s, pending, action) ← processSegments X decodeChunk (splitInclusive chunk) pending s
    if action = .done then return s.usage
    ensurePendingJsonlSize X pending
    consumeChunks arrivals totalStreamBytes pending s

/-- `consume_chat_stream`. -/
def consumeChatStream (arrivals : List Arrival) : Response GenerationUsage :=
  consumeChunks X decodeChunk arrivals 0 [] .default

end Processing

/-! ### The calls of a response -/

section Calls

theorem processChatLine_after (line : Bytes) (h : s.calls.Settled log) :
    After log (processChatLine X decodeChunk line s) fun log' out => out.1.calls.Settled log' := by
  refine .ite (fun _ => after_pure h) fun _ => ?_
  refine lift_bind fun parsed _ => ?_
  obtain ⟨chunk, done, message⟩ := parsed
  refine require_bind fun _ => ?_
  refine .bind (Q := fun log' _ => s.calls.Settled log')
    (onlyIf (fun _ => after_send (h.skip rfl)) fun _ => h) fun log₁ _ h₁ => ?_
  refine .bind (Q := fun log' _ => s.calls.Settled log')
    (onlyIf (fun _ => after_send (h₁.skip rfl)) fun _ => h₁) fun log₂ _ h₂ => ?_
  refine .bind (Q := fun log' (s' : ChatStreamState) => s'.calls.Settled log') ?_
    fun _ _ h₃ => after_pure h₃
  refine forEachSend (fun log' call s' h' => ?_) message.toolCalls h₂
  exact (emitWholeCall_after _ h').bind fun _ _ h'' => after_pure h''

theorem processSegments_after (segments : List Bytes) (pending : Bytes) (h : s.calls.Settled log) :
    After log (processSegments X decodeChunk segments pending s) fun log' out =>
      out.1.calls.Settled log' := by
  induction segments generalizing pending s log with
  | nil => exact after_pure h
  | cons segment segments ih =>
    refine lift_bind fun taken _ => ?_
    obtain ⟨line, pending⟩ := taken
    cases line with
    | none => exact ih pending h
    | some line =>
      refine (processChatLine_after line h).bind fun log' out hout => ?_
      exact .ite (fun _ => after_pure hout) fun _ => ih pending hout

theorem finishChatStream_after (pending : Bytes) (h : s.calls.Settled log) :
    After log (finishChatStream X decodeChunk pending s) fun log' _ =>
      ∃ s' : ChatStreamState, s'.calls.Settled log' := by
  refine lift_bind fun _ _ => .ite (fun _ => after_fail) fun _ => ?_
  refine (processChatLine_after _ h).bind fun log' out hout => ?_
  exact .ite (fun _ => after_pure ⟨out.1, hout⟩) fun _ => after_fail

theorem consumeChunks_after (arrivals : List Arrival) (total : Nat) (pending : Bytes)
    (h : s.calls.Settled log) :
    After log (consumeChunks X decodeChunk arrivals total pending s) fun log' _ =>
      ∃ s' : ChatStreamState, s'.calls.Settled log' := by
  induction arrivals generalizing total pending s log with
  | nil => exact finishChatStream_after pending h
  | cons arrival arrivals ih =>
    cases arrival with
    | error failure => exact after_fail
    | ok chunk =>
      refine lift_bind fun total _ => require_bind fun _ => ?_
      refine (processSegments_after _ pending h).bind fun log' out hout => ?_
      obtain ⟨s', pending, action⟩ := out
      refine .ite (fun _ => after_pure ⟨s', hout⟩) fun _ => lift_bind fun _ _ => ?_
      exact ih total pending hout

/-- **The Ollama adapter.** -/
theorem consumeChatStream_wellBracketed
    (h : (consumeChatStream X decodeChunk arrivals).result = .ok usage) :
    WellBracketed ProviderEvent.call? (consumeChatStream X decodeChunk arrivals).sent := by
  obtain ⟨s, hsett⟩ := consumeChunks_after arrivals 0 [] WholeCalls.Settled.default usage h
  exact Ledger.wellBracketed hsett

end Calls

end LorePia.Providers.Ollama
