import LorePia.Chat.Events
import LorePia.Chat.Prompt
import LorePia.Chat.Reflection
import Mathlib.Data.Finset.Card
import Mathlib.Data.List.AList

namespace LorePia.Chat

open Lib

/-!
# Chat — one generation

`run_generation` and the accumulator behind it.  The accumulator forwards provider events to
the shell: every text goes through a reflection stream, completions of tool calls wait for the
end of the generation, and long arguments are cut into chunks.

The accumulator is a record, and an operation on it ends in a new record or in a `Stopped`
that keeps the record it stopped with: a failure reports the text and the sequence reached.
What went out is part of the record (`emitted`); `receiver` says how many more events the
other end accepts before it closes, `none` if it stays open.

What `tokio::select!` observes, in the order in which it does, is a `Schedule`.
-/

/-- What the core calls and does not define: the identifier drawn for the error of the
    generation, the parser of `serde_json` and the sizes of its serializer. -/
structure ChatExternals where
  uuid : String
  parseJson : String → Option Json
  sizes : ReasoningSizes

def maxGeneratedOutputBytes : Nat := 256 * 1024
def maxGeneratedOutputChars : Nat := 64 * 1024
def maxGeneratedToolCalls : Nat := 128
def maxGeneratedProviderEvents : Nat := 8192
def maxGeneratedToolArgumentBytes : Nat := 256 * 1024
def maxGeneratedToolArgumentChars : Nat := 128 * 1024
def maxProviderErrorBytes : Nat := 16 * 1024
def maxProviderErrorChars : Nat := 4 * 1024
def maxBorrowedCredentialBytes : Nat := 16 * 1024

/-! ### Errors -/

section Errors

variable (uuid : String)

def toolProtocolError (message : String) : CoreError :=
  .new uuid .providerUnavailable message false

def outputLimitErrorMessage : String :=
  "provider output exceeded the 262144-byte or 65536-character safety limit"

def outputLimitError : CoreError := .new uuid .providerUnavailable outputLimitErrorMessage false

def cancelledError : CoreError := .new uuid .cancelled "generation was cancelled" true

def toolArgumentsLimitError : CoreError :=
  toolProtocolError uuid
    "provider tool-call arguments exceeded the 262144-byte or 131072-character safety limit"

def providerEventLimitError : CoreError :=
  toolProtocolError uuid "provider exceeded the 8192-event generation limit"

def credentialLimitErrorMessage : String :=
  "provider credential exceeds the 16384-byte safety limit"

/-- `bound_provider_error`: a provider's own error is replaced if it contains the credential or
    is too long. -/
def boundProviderError (error : CoreError) (credentialGuard : CredentialReflectionGuard) :
    CoreError :=
  if credentialGuard.contains error.message ∨ credentialGuard.contains error.operationId then
    credentialReflectionError uuid
  else if byteLen error.message ≤ maxProviderErrorBytes ∧
      charCount error.message ≤ maxProviderErrorChars then
    error
  else
    .new uuid .providerUnavailable "provider returned an oversized failure response" false

end Errors

/-! ### Guarded values -/

section Guarded

variable (X : ChatExternals) (guard : CredentialReflectionGuard)

def CredentialReflectionGuard.validateToolStart (id : ToolCallId) (name : ToolName) :
    Except Fault (ToolCallId × ToolName) :=
  if guard.contains id.val = false ∧ guard.contains name.val = false then .ok (id, name)
  else .error (.error (credentialReflectionError X.uuid))

def CredentialReflectionGuard.validateToolId (id : ToolCallId) : Except Fault ToolCallId :=
  if guard.contains id.val = false then .ok id
  else .error (.error (credentialReflectionError X.uuid))

/-- The texts of one Anthropic block, as the guard compares them. -/
def blockContainsExact (credential : String) : AnthropicContentBlock → Bool
  | .text text => strContains text credential
  | .thinking thinking signature =>
    strContains thinking credential || strContains signature.val credential
  | .redactedThinking data => strContains data.val credential
  | .toolUse id name input =>
    strContains id.val credential || strContains name.val credential ||
      jsonValueContainsExact credential input

def opaqueStateContainsExact (state : OpaqueReasoningState) (credential : String) : Bool :=
  match state with
  | .openAiResponses item => item.containsExact credential
  | .geminiThoughtSignature _ signature => strContains signature.val credential
  | .openRouterReasoning topology => topology.containsExact X.parseJson credential
  | .anthropicMessages contentBlocks => contentBlocks.any (blockContainsExact credential)

def CredentialReflectionGuard.validateOpaqueState (state : OpaqueReasoningState) :
    Except Fault OpaqueReasoningState :=
  match guard.credential with
  | none => .ok state
  | some credential =>
    if opaqueStateContainsExact X state credential then
      .error (.error (credentialReflectionError X.uuid))
    else .ok state

/-- A summary that is not JSON counts as containing the credential. -/
def boundedJsonContainsExact (encoded credential : String) : Bool :=
  match X.parseJson encoded with
  | none => true
  | some value => jsonValueContainsExact credential value

def CredentialReflectionGuard.validateUsage (usage : GenerationUsage) :
    Except Fault GenerationUsage :=
  if guard.credential.any (fun credential =>
      usage.providerRawSummary.any fun summary =>
        boundedJsonContainsExact X summary.val credential) then
    .error (.error (credentialReflectionError X.uuid))
  else .ok usage

def validateOpaqueStateFamily (state : OpaqueReasoningState) (providerFamily : Option ApiFamily) :
    Except Fault OpaqueReasoningState :=
  match providerFamily, state with
  | some .openAiResponses, .openAiResponses _
  | some .openAiChatCompletions, .openRouterReasoning _
  | some .anthropicMessages, .anthropicMessages _
  | some .geminiGenerateContent, .geminiThoughtSignature _ _ => .ok state
  | _, _ =>
    .error (.error (.new X.uuid .providerUnavailable
      "provider returned opaque reasoning state for a different API family" false))

end Guarded

/-! ### The accumulator -/

structure GenerationAccumulator where
  generationId : String
  conversationId : String
  credentialGuard : CredentialReflectionGuard
  textReflection : ReflectionStream
  reasoningReflection : ReflectionStream
  text : String
  outputBytes : Nat
  outputChars : Nat
  toolArgumentBytes : Nat
  toolArgumentChars : Nat
  activeToolCalls : Finset ToolCallId
  completedToolCalls : Finset ToolCallId
  toolArgumentReflections : AList fun _ : ToolCallId => ReflectionStream
  pendingToolCompletions : List (ToolCallId × ReflectionStream)
  providerEventCount : Nat
  preserveOpaqueReasoningState : Bool
  providerFamily : Option ApiFamily
  opaqueReasoningState : List OpaqueReasoningState
  sequence : Nat
  emitted : List ChatEvent
  receiver : Option Nat

/-- A generation that stopped early, with the accumulator it stopped with. -/
structure Stopped where
  fault : Fault
  acc : GenerationAccumulator

/-- The accumulator at the start of `run_generation`. -/
def GenerationAccumulator.new (request : GenerationRequest) (credential : Option String)
    (receiver : Option Nat) : GenerationAccumulator where
  generationId := request.generationId
  conversationId := request.conversationId
  credentialGuard := .new credential
  textReflection := .new (.new credential)
  reasoningReflection := .new (.new credential)
  text := ""
  outputBytes := 0
  outputChars := 0
  toolArgumentBytes := 0
  toolArgumentChars := 0
  activeToolCalls := ∅
  completedToolCalls := ∅
  toolArgumentReflections := ∅
  pendingToolCompletions := []
  providerEventCount := 0
  preserveOpaqueReasoningState := request.preserveOpaqueReasoningState
  providerFamily := request.providerProvenance.map GenerationProviderProvenance.apiFamily
  opaqueReasoningState := []
  sequence := 1
  emitted := []
  receiver := receiver

namespace GenerationAccumulator

variable (X : ChatExternals)

/-- Stop with an error of the core. -/
def stop (acc : GenerationAccumulator) (error : CoreError) : Stopped := ⟨.error error, acc⟩

/-- Run a step that does not touch the accumulator. -/
def lift {α : Type} (acc : GenerationAccumulator) (step : Except Fault α) : Except Stopped α :=
  step.mapError fun fault => ⟨fault, acc⟩

/-- `send_event`. -/
def sendEvent (event : ChatEvent) (acc : GenerationAccumulator) :
    Except Stopped GenerationAccumulator :=
  match acc.receiver with
  | some 0 => .error (acc.stop (.new X.uuid .internal "chat event receiver closed" false))
  | receiver => .ok { acc with emitted := acc.emitted ++ [event], receiver := receiver.map (· - 1) }

def emit (kind : ChatEventKind) (acc : GenerationAccumulator) :
    Except Stopped GenerationAccumulator :=
  let acc := { acc with sequence := saturatingAdd acc.sequence 1 }
  acc.sendEvent X (.new acc.generationId acc.conversationId acc.sequence kind)

def trackOutputDelta (delta : String) (acc : GenerationAccumulator) :
    Except Stopped GenerationAccumulator := do
  let nextBytes ← okOr (checkedAdd acc.outputBytes (byteLen delta))
    (acc.stop (outputLimitError X.uuid))
  let nextChars ← okOr (checkedAdd acc.outputChars (charCount delta))
    (acc.stop (outputLimitError X.uuid))
  require (¬ (nextBytes > maxGeneratedOutputBytes ∨ nextChars > maxGeneratedOutputChars))
    (acc.stop (outputLimitError X.uuid))
  return { acc with outputBytes := nextBytes, outputChars := nextChars }

def trackToolArguments (delta : String) (acc : GenerationAccumulator) :
    Except Stopped GenerationAccumulator := do
  let nextBytes ← okOr (checkedAdd acc.toolArgumentBytes (byteLen delta))
    (acc.stop (toolArgumentsLimitError X.uuid))
  let nextChars ← okOr (checkedAdd acc.toolArgumentChars (charCount delta))
    (acc.stop (toolArgumentsLimitError X.uuid))
  require (¬ (nextBytes > maxGeneratedToolArgumentBytes ∨
      nextChars > maxGeneratedToolArgumentChars))
    (acc.stop (toolArgumentsLimitError X.uuid))
  return { acc with toolArgumentBytes := nextBytes, toolArgumentChars := nextChars }

/-- The loop of `bounded_tool_argument_chunk_end`: a character starts where the previous one
    ended. -/
def chunkEnd (characters «end» : Nat) : List Char → Nat
  | [] => «end»
  | c :: cs =>
    if characters = maxToolArgumentDeltaChars ∨ «end» + c.utf8Size > maxToolArgumentDeltaBytes then
      «end»
    else chunkEnd (characters + 1) («end» + c.utf8Size) cs

def boundedToolArgumentChunkEnd (value : String) : Nat := chunkEnd 0 0 value.toList

/-- The loop of `emit_filtered_tool_arguments`, with a bound on its rounds: a round that is
    not allowed any more counts as a hang. -/
def emitChunks (id : ToolCallId) :
    Nat → String → GenerationAccumulator → Except Stopped GenerationAccumulator
  | 0, remaining, acc => if remaining = "" then .ok acc else .error ⟨.panicked, acc⟩
  | rounds + 1, remaining, acc =>
    if remaining = "" then .ok acc
    else do
      let cut ← okOr (splitOff remaining (boundedToolArgumentChunkEnd remaining)) ⟨.panicked, acc⟩
      let chunk ← (ToolCallArgumentsDelta.parse cut.1).mapError fun _ =>
        acc.stop (toolProtocolError X.uuid "provider tool-call argument filtering failed")
      let acc ← acc.emit X (.toolCallArgumentsDelta id chunk)
      emitChunks id rounds cut.2 acc

def emitFilteredToolArguments (id : ToolCallId) (filtered : String)
    (acc : GenerationAccumulator) : Except Stopped GenerationAccumulator :=
  emitChunks X id (charCount filtered) filtered acc

/-! ### Forwarding -/

def forwardText (delta : String) (acc : GenerationAccumulator) :
    Except Stopped GenerationAccumulator := do
  let acc ← acc.trackOutputDelta X delta
  let pushed ← acc.lift (acc.textReflection.push X.uuid delta)
  let acc := { acc with textReflection := pushed.2 }
  if pushed.1 ≠ "" ∨ acc.credentialGuard.isEnabled = false then
    emit X (.textDelta pushed.1) { acc with text := acc.text ++ pushed.1 }
  else return acc

def forwardReasoning (delta : String) (acc : GenerationAccumulator) :
    Except Stopped GenerationAccumulator := do
  let acc ← acc.trackOutputDelta X delta
  let pushed ← acc.lift (acc.reasoningReflection.push X.uuid delta)
  let acc := { acc with reasoningReflection := pushed.2 }
  if pushed.1 ≠ "" ∨ acc.credentialGuard.isEnabled = false then
    acc.emit X (.reasoningDelta pushed.1)
  else return acc

def forwardToolStart (id : ToolCallId) (name : ToolName) (acc : GenerationAccumulator) :
    Except Stopped GenerationAccumulator := do
  let (id, name) ← acc.lift (acc.credentialGuard.validateToolStart X id name)
  require (acc.activeToolCalls.card + acc.completedToolCalls.card < maxGeneratedToolCalls)
    (acc.stop (toolProtocolError X.uuid "provider exceeded the 128 tool-call generation limit"))
  require (¬ (id ∈ acc.activeToolCalls ∨ id ∈ acc.completedToolCalls))
    (acc.stop (toolProtocolError X.uuid "provider reused a tool-call identifier"))
  let acc := { acc with
    activeToolCalls := insert id acc.activeToolCalls
    toolArgumentReflections :=
      acc.toolArgumentReflections.insert id (.new acc.credentialGuard) }
  acc.emit X (.toolCallStarted id name)

def forwardToolArguments (id : ToolCallId) (delta : ToolCallArgumentsDelta)
    (acc : GenerationAccumulator) : Except Stopped GenerationAccumulator := do
  let id ← acc.lift (acc.credentialGuard.validateToolId X id)
  require (id ∈ acc.activeToolCalls)
    (acc.stop (if acc.credentialGuard.contains delta.val then credentialReflectionError X.uuid
      else toolProtocolError X.uuid "provider sent tool-call arguments outside an active call"))
  let acc ← acc.trackToolArguments X delta.val
  let stream ← okOr (acc.toolArgumentReflections.lookup id)
    (acc.stop (toolProtocolError X.uuid "provider tool-call argument stream was unavailable"))
  let pushed ← acc.lift (stream.push X.uuid delta.val)
  let acc := { acc with toolArgumentReflections := acc.toolArgumentReflections.insert id pushed.2 }
  if pushed.1 = "" then return acc
  else acc.emitFilteredToolArguments X id pushed.1

def completeToolCall (id : ToolCallId) (acc : GenerationAccumulator) :
    Except Stopped GenerationAccumulator := do
  let id ← acc.lift (acc.credentialGuard.validateToolId X id)
  require (id ∈ acc.activeToolCalls)
    (acc.stop (toolProtocolError X.uuid "provider completed a tool call that was not active"))
  let acc := { acc with activeToolCalls := acc.activeToolCalls.erase id }
  let reflection ← okOr (acc.toolArgumentReflections.lookup id)
    (acc.stop (toolProtocolError X.uuid "provider tool-call argument stream was unavailable"))
  return { acc with
    toolArgumentReflections := acc.toolArgumentReflections.erase id
    completedToolCalls := insert id acc.completedToolCalls
    pendingToolCompletions := acc.pendingToolCompletions ++ [(id, reflection)] }

def forwardOpaqueState (state : OpaqueReasoningState) (acc : GenerationAccumulator) :
    Except Stopped GenerationAccumulator := do
  let state ← acc.lift (acc.credentialGuard.validateOpaqueState X state)
  if acc.preserveOpaqueReasoningState then
    let state ← acc.lift (validateOpaqueStateFamily X state acc.providerFamily)
    let states := acc.opaqueReasoningState ++ [state]
    (validateOpaqueReasoningStates X.sizes states).mapError fun reason =>
      acc.stop (.new X.uuid .providerUnavailable reason false)
    return { acc with opaqueReasoningState := states }
  else return acc

/-- `match event` of `forward`. -/
def dispatch : ProviderEvent → GenerationAccumulator → Except Stopped GenerationAccumulator
  | .textDelta delta => forwardText X delta
  | .reasoningDelta delta => forwardReasoning X delta
  | .toolCallStarted id name => forwardToolStart X id name
  | .toolCallArgumentsDelta id delta => forwardToolArguments X id delta
  | .toolCallCompleted id => completeToolCall X id
  | .opaqueReasoningState state => forwardOpaqueState X state

def forward (event : ProviderEvent) (acc : GenerationAccumulator) :
    Except Stopped GenerationAccumulator := do
  let count ← okOr (checkedAdd acc.providerEventCount 1)
    (acc.stop (providerEventLimitError X.uuid))
  let acc := { acc with providerEventCount := count }
  require (count ≤ maxGeneratedProviderEvents) (acc.stop (providerEventLimitError X.uuid))
  dispatch X event acc

def ensureProtocolComplete (acc : GenerationAccumulator) : Except Stopped Unit :=
  require (acc.activeToolCalls = ∅)
    (acc.stop (toolProtocolError X.uuid "provider generation ended with an incomplete tool call"))

/-! ### The end of the streams -/

def finishText (acc : GenerationAccumulator) : Except Stopped GenerationAccumulator :=
  let finished := acc.textReflection.finish
  let acc := { acc with textReflection := finished.2 }
  if finished.1 = "" then .ok acc
  else do
    let acc ← acc.emit X (.textDelta finished.1)
    return { acc with text := acc.text ++ finished.1 }

def finishReasoning (acc : GenerationAccumulator) : Except Stopped GenerationAccumulator :=
  let finished := acc.reasoningReflection.finish
  let acc := { acc with reasoningReflection := finished.2 }
  if finished.1 = "" then .ok acc else acc.emit X (.reasoningDelta finished.1)

/-- One deferred completion: what its stream still holds, then the completion itself. -/
def finishCompletion (completion : ToolCallId × ReflectionStream) (acc : GenerationAccumulator) :
    Except Stopped GenerationAccumulator := do
  let filtered := completion.2.finish.1
  let acc ← if filtered = "" then pure acc
    else acc.emitFilteredToolArguments X completion.1 filtered
  acc.emit X (.toolCallCompleted completion.1)

def finishCompletions : List (ToolCallId × ReflectionStream) → GenerationAccumulator →
    Except Stopped GenerationAccumulator
  | [], acc => .ok acc
  | completion :: completions, acc => do
    let acc ← acc.finishCompletion X completion
    finishCompletions completions acc

def finishPublicStreams (acc : GenerationAccumulator) : Except Stopped GenerationAccumulator := do
  let acc ← acc.finishText X
  let acc ← acc.finishReasoning X
  finishCompletions X acc.pendingToolCompletions { acc with pendingToolCompletions := [] }

end GenerationAccumulator

/-! ### The run -/

/-- What one round of `select!` observes. -/
inductive Tick
  | cancellationChanged (cancelled : Bool)
  | cancellationClosed
  | event (event : ProviderEvent)
  | providerClosed

/-- One run as the scheduler and the provider make it: whether it is cancelled beforehand, the
    rounds of the loop until the provider's future is ready, its result, and what the queue
    still holds then. -/
structure Schedule where
  cancelledBefore : Bool
  ticks : List Tick
  result : CoreResult GenerationUsage
  queued : List ProviderEvent

structure GenerationOutcome where
  text : String
  usage : GenerationUsage
  opaqueReasoningState : List OpaqueReasoningState
  lastSequence : Nat
deriving DecidableEq

structure GenerationFailure where
  error : CoreError
  partialText : String
  lastSequence : Nat
deriving DecidableEq

/-- `GenerationAccumulator::failure`. -/
def GenerationAccumulator.failure (acc : GenerationAccumulator) (error : CoreError) :
    GenerationFailure :=
  { error, partialText := acc.text, lastSequence := acc.sequence }

section Run

variable (X : ChatExternals)

/-- The `select!` loop: the accumulator, the result, and whether the queue is still open. -/
def collectLoop (result : CoreResult GenerationUsage) :
    List Tick → Bool → Bool → GenerationAccumulator →
      Except Stopped (GenerationAccumulator × CoreResult GenerationUsage × Bool)
  | [], _, providerOpen, acc => .ok (acc, result, providerOpen)
  | .cancellationChanged cancelled :: ticks, cancellationOpen, providerOpen, acc =>
    if cancellationOpen = true ∧ cancelled = true then
      .ok (acc, .error (cancelledError X.uuid), providerOpen)
    else collectLoop result ticks cancellationOpen providerOpen acc
  | .cancellationClosed :: ticks, _, providerOpen, acc =>
    collectLoop result ticks false providerOpen acc
  | .event event :: ticks, cancellationOpen, true, acc => do
    let acc ← acc.forward X event
    collectLoop result ticks cancellationOpen true acc
  | .event _ :: ticks, cancellationOpen, false, acc =>
    -- a closed queue is not polled
    collectLoop result ticks cancellationOpen false acc
  | .providerClosed :: ticks, cancellationOpen, _, acc =>
    collectLoop result ticks cancellationOpen false acc

/-- The `try_recv` loop. -/
def drain : List ProviderEvent → GenerationAccumulator → Except Stopped GenerationAccumulator
  | [], acc => .ok acc
  | event :: events, acc => do
    let acc ← acc.forward X event
    drain events acc

def collectProviderEvents (schedule : Schedule) (acc : GenerationAccumulator) :
    Except Stopped (GenerationAccumulator × CoreResult GenerationUsage) :=
  if schedule.cancelledBefore then .ok (acc, .error (cancelledError X.uuid))
  else do
    let (acc, result, providerOpen) ← collectLoop X schedule.result schedule.ticks true true acc
    let result := result.mapError fun error =>
      boundProviderError X.uuid error acc.credentialGuard
    let acc ← drain X (if providerOpen then schedule.queued else []) acc
    if result.isOk then
      acc.ensureProtocolComplete X
    return (acc, result)

/-- `match result` of `run_generation`. -/
def concludeGeneration (acc : GenerationAccumulator) :
    CoreResult GenerationUsage → Except Stopped (GenerationAccumulator × GenerationOutcome)
  | .error error => .error (acc.stop error)
  | .ok usage => do
    let usage ← acc.lift (acc.credentialGuard.validateUsage X usage)
    let acc ← acc.finishPublicStreams X
    let acc ← acc.emit X (.usageUpdated usage)
    return (acc,
      { text := acc.text, usage, opaqueReasoningState := acc.opaqueReasoningState,
        lastSequence := acc.sequence })

/-- `validate_borrowed_credential`. -/
def validateBorrowedCredential (credential : Option String) : CoreResult Unit :=
  require (¬ ∃ value ∈ credential, byteLen value > maxBorrowedCredentialBytes)
    (invalid X.uuid credentialLimitErrorMessage)

/-- `run_generation`, with the accumulator at its end. -/
def generate (request : GenerationRequest) (credential : Option String) (receiver : Option Nat)
    (schedule : Schedule) : Except Stopped (GenerationAccumulator × GenerationOutcome) := do
  let acc := GenerationAccumulator.new request credential receiver
  (validateBorrowedCredential X credential).mapError acc.stop
  (validateGenerationRequest X.uuid request).mapError acc.stop
  let acc ← acc.sendEvent X
    (.new acc.generationId acc.conversationId acc.sequence .generationStarted)
  let (acc, result) ← collectProviderEvents X schedule acc
  concludeGeneration X acc result

/-- How a generation ends. -/
inductive Ended
  | completed (outcome : GenerationOutcome)
  | failed (failure : GenerationFailure)
  | panicked
deriving DecidableEq

/-- What a caller and the receiver see of a generation. -/
structure GenerationRun where
  ended : Ended
  emitted : List ChatEvent
deriving DecidableEq

def runGeneration (request : GenerationRequest) (credential : Option String)
    (receiver : Option Nat) (schedule : Schedule) : GenerationRun :=
  match generate X request credential receiver schedule with
  | .ok (acc, outcome) => ⟨.completed outcome, acc.emitted⟩
  | .error ⟨.error error, acc⟩ => ⟨.failed (acc.failure error), acc.emitted⟩
  | .error ⟨.panicked, acc⟩ => ⟨.panicked, acc.emitted⟩

end Run

end LorePia.Chat
