import LorePia.Domain.Error
import LorePia.Domain.Json
import LorePia.Domain.Machine
import LorePia.Lib.Bracket
import LorePia.Lib.Fallible

namespace LorePia

open Lib Json

/-!
# Provider protocol types

What adapters and the chat core exchange: bounded identifiers and fragments, the usage
summary, and the closed forms of provider-native reasoning state.  A bounded text is a
structure that carries its validity, so an adapter cannot hand over one that was not parsed.

Serialized sizes belong to the serializer and are parameters (`ReasoningSizes`).
-/

variable {maxBytes maxChars : Nat} {label value : String} {reject : Bool}

/-! ### Bounded texts -/

/-- `validate_bounded_protocol_text`. -/
def validateBoundedProtocolText (label value : String) (maxBytes maxChars : Nat)
    (rejectSurroundingWhitespace : Bool) : Except String Unit := do
  require (value ≠ "") (label ++ " must not be empty")
  require (¬ (rejectSurroundingWhitespace ∧ trim value ≠ value))
    (label ++ " must not contain surrounding whitespace")
  require (hasControl value = false) (label ++ " must not contain control characters")
  require (byteLen value ≤ maxBytes ∧ charCount value ≤ maxChars)
    (label ++ " exceeds the " ++ toString maxBytes ++ "-byte or " ++ toString maxChars ++
      "-character limit")

/-- The texts that `validate_bounded_protocol_text` accepts. -/
def isBoundedProtocolText (value : String) (maxBytes maxChars : Nat)
    (rejectSurroundingWhitespace : Bool) : Bool :=
  value ≠ "" && !(rejectSurroundingWhitespace && trim value != value) && !hasControl value &&
    byteLen value ≤ maxBytes && charCount value ≤ maxChars

theorem validateBoundedProtocolText_ok :
    validateBoundedProtocolText label value maxBytes maxChars reject = .ok u ↔
      isBoundedProtocolText value maxBytes maxChars reject = true := by
  simp only [validateBoundedProtocolText, guard_ok, require_ok,
    isBoundedProtocolText, Bool.and_eq_true, Bool.not_eq_true', decide_eq_true_eq,
    Bool.and_eq_false_iff, bne_eq_false_iff_eq, not_and, ne_eq, Decidable.not_not]
  cases reject <;> simp [and_assoc]

def maxToolCallIdBytes : Nat := 512
def maxToolCallIdChars : Nat := 256
def maxToolNameBytes : Nat := 256
def maxToolNameChars : Nat := 128
def maxToolArgumentDeltaBytes : Nat := 64 * 1024
def maxToolArgumentDeltaChars : Nat := 32 * 1024
def maxOpaqueReasoningItemBytes : Nat := 64 * 1024

/-- Parse a text into a structure that carries its validity. -/
def parseBounded {α : Type} (label : String) (maxBytes maxChars : Nat) (reject : Bool)
    (make : (value : String) → isBoundedProtocolText value maxBytes maxChars reject = true → α)
    (value : String) : Except String α :=
  match h : validateBoundedProtocolText label value maxBytes maxChars reject with
  | .ok _ => .ok (make value (validateBoundedProtocolText_ok.mp h))
  | .error reason => .error reason

structure ToolCallId where
  val : String
  valid : isBoundedProtocolText val maxToolCallIdBytes maxToolCallIdChars false = true
deriving DecidableEq

structure ToolName where
  val : String
  valid : isBoundedProtocolText val maxToolNameBytes maxToolNameChars true = true
deriving DecidableEq

structure ToolCallArgumentsDelta where
  val : String
  valid : isBoundedProtocolText val maxToolArgumentDeltaBytes maxToolArgumentDeltaChars false = true
deriving DecidableEq

/-- Encrypted or signed provider state. -/
structure OpaqueReasoningData where
  val : String
  valid : isBoundedProtocolText val maxOpaqueReasoningItemBytes maxOpaqueReasoningItemBytes false =
    true
deriving DecidableEq

structure OpaqueReasoningItemId where
  val : String
  valid : isBoundedProtocolText val maxToolCallIdBytes maxToolCallIdChars false = true
deriving DecidableEq

def ToolCallId.parse : String → Except String ToolCallId :=
  parseBounded "tool call id" maxToolCallIdBytes maxToolCallIdChars false ToolCallId.mk

def ToolName.parse : String → Except String ToolName :=
  parseBounded "tool name" maxToolNameBytes maxToolNameChars true ToolName.mk

def ToolCallArgumentsDelta.parse : String → Except String ToolCallArgumentsDelta :=
  parseBounded "tool call arguments delta" maxToolArgumentDeltaBytes maxToolArgumentDeltaChars
    false ToolCallArgumentsDelta.mk

def OpaqueReasoningData.parse : String → Except String OpaqueReasoningData :=
  parseBounded "opaque reasoning data" maxOpaqueReasoningItemBytes maxOpaqueReasoningItemBytes
    false OpaqueReasoningData.mk

theorem parseBounded_ok {α : Type}
    {make : (value : String) → isBoundedProtocolText value maxBytes maxChars reject = true → α}
    (h : isBoundedProtocolText value maxBytes maxChars reject = true) :
    parseBounded label maxBytes maxChars reject make value = .ok (make value h) := by
  have hok : validateBoundedProtocolText label value maxBytes maxChars reject = .ok () :=
    validateBoundedProtocolText_ok.mpr h
  unfold parseBounded
  split
  · rfl
  · rename_i herr
    rw [hok] at herr
    cases herr

/-- A parsed text is kept as it is. -/
theorem exists_of_parseBounded_ok {α : Type}
    {make : (value : String) → isBoundedProtocolText value maxBytes maxChars reject = true → α}
    {a : α} (h : parseBounded label maxBytes maxChars reject make value = .ok a) :
    ∃ hval, make value hval = a := by
  unfold parseBounded at h
  split at h
  · exact ⟨_, Except.ok.inj h⟩
  · cases h

theorem ToolCallId.val_injective : Function.Injective ToolCallId.val := by
  rintro ⟨_, _⟩ ⟨_, _⟩ rfl
  rfl

theorem ToolCallId.val_of_parse {id : ToolCallId}
    (h : ToolCallId.parse value = .ok id) : id.val = value := by
  obtain ⟨_, rfl⟩ := exists_of_parseBounded_ok h
  rfl

/-! ### Usage -/

/-- `BoundedJson`: a validated JSON object, kept as canonical text. -/
structure BoundedJson where
  val : String
deriving DecidableEq

structure GenerationUsage where
  inputTokens : Option Nat
  cachedReadTokens : Option Nat
  cachedWriteTokens : Option Nat
  outputTokens : Option Nat
  reasoningTokens : Option Nat
  toolTokens : Option Nat
  providerRawSummary : Option BoundedJson
deriving DecidableEq

/-- `GenerationUsage::default`. -/
def GenerationUsage.default : GenerationUsage where
  inputTokens := none
  cachedReadTokens := none
  cachedWriteTokens := none
  outputTokens := none
  reasoningTokens := none
  toolTokens := none
  providerRawSummary := none

/-! ### Reasoning state -/

inductive ApiFamily
  | openAiResponses
  | openAiChatCompletions
  | anthropicMessages
  | geminiGenerateContent
  | ollamaNative
deriving DecidableEq

/-- A normalized provider or model capability. -/
inductive CapabilityKey
  | streaming
  | reasoning
  | promptCaching
  | toolCalling
  | parallelToolCalling
  | structuredOutput
  | jsonMode
  | imageInput
  | audioInput
  | audioOutput
  | logprobs
  | seed
  | batch
  | background
  | contextWindow
  | maxOutputTokens
deriving DecidableEq

inductive OpenAiResponsesReasoningStatus
  | inProgress
  | completed
  | incomplete
deriving DecidableEq

def OpenAiResponsesReasoningStatus.asStr : OpenAiResponsesReasoningStatus → String
  | .inProgress => "in_progress"
  | .completed => "completed"
  | .incomplete => "incomplete"

/-- One replayable OpenAI reasoning item: the texts of its summary and content parts, its
    encrypted content and its status. -/
structure OpenAiResponsesReasoningItem where
  id : OpaqueReasoningItemId
  summary : List String
  content : Option (List String)
  encryptedContent : Option OpaqueReasoningData
  status : Option OpenAiResponsesReasoningStatus
deriving DecidableEq

/-- `OpenRouterReasoningTopology`; a detail is its canonical JSON text. -/
structure OpenRouterReasoningTopology where
  reasoning : Option String
  reasoningDetails : Option (List String)
deriving DecidableEq

inductive AnthropicContentBlock
  | text (text : String)
  | thinking (thinking : String) (signature : OpaqueReasoningData)
  | redactedThinking (data : OpaqueReasoningData)
  | toolUse (id : ToolCallId) (name : ToolName) (input : Json)
deriving DecidableEq

inductive OpaqueReasoningState
  | openAiResponses (item : OpenAiResponsesReasoningItem)
  | geminiThoughtSignature (partIndex : Nat) (signature : OpaqueReasoningData)
  | openRouterReasoning (topology : OpenRouterReasoningTopology)
  | anthropicMessages (contentBlocks : List AnthropicContentBlock)
deriving DecidableEq

/-- The serialized sizes of reasoning state; `none` where serialization fails. -/
structure ReasoningSizes where
  item : OpenAiResponsesReasoningItem → Nat
  topology : OpenRouterReasoningTopology → Nat
  blocks : List AnthropicContentBlock → Nat
  states : List OpaqueReasoningState → Option Nat

/-- `OpaqueReasoningState::payload_bytes`. -/
def OpaqueReasoningState.payloadBytes (Z : ReasoningSizes) : OpaqueReasoningState → Nat
  | .openAiResponses item => Z.item item
  | .geminiThoughtSignature _ signature => byteLen signature.val
  | .openRouterReasoning topology => Z.topology topology
  | .anthropicMessages contentBlocks => Z.blocks contentBlocks

def maxOpaqueReasoningStateCount : Nat := 32
def maxOpaqueReasoningTotalBytes : Nat := 256 * 1024
def maxOpaqueReasoningSerializedBytes : Nat := 264 * 1024

/-- The loop over the sizes of the states. -/
def sumReasoningBytes (Z : ReasoningSizes) (total : Nat) :
    List OpaqueReasoningState → Except String Unit
  | [] => .ok ()
  | state :: states => do
    require (total + state.payloadBytes Z ≤ u64Max) "opaque reasoning state size overflow"
    require (total + state.payloadBytes Z ≤ maxOpaqueReasoningTotalBytes)
      "opaque reasoning state exceeds the 262144-byte limit"
    sumReasoningBytes Z (total + state.payloadBytes Z) states

def validateOpaqueReasoningStates (Z : ReasoningSizes) (states : List OpaqueReasoningState) :
    Except String Unit := do
  require (states.length ≤ maxOpaqueReasoningStateCount)
    "opaque reasoning state exceeds the 32-item limit"
  sumReasoningBytes Z 0 states
  let serialized ← okOr (Z.states states) "opaque reasoning state could not be encoded"
  require (serialized ≤ maxOpaqueReasoningSerializedBytes)
    "opaque reasoning state exceeds the 270336-byte serialized JSON limit"

/-- Some string or key inside the value contains the candidate; numbers are not compared. -/
def jsonValueContainsExact (candidate : String) : Json → Bool
  | .string value => strContains value candidate
  | .array items => anyItem items
  | .object fields => anyField fields
  | .null | .bool _ | .number _ => false
where
  anyItem : List Json → Bool
    | [] => false
    | item :: items => jsonValueContainsExact candidate item || anyItem items
  anyField : List (String × Json) → Bool
    | [] => false
    | (key, value) :: fields =>
      (strContains key candidate || jsonValueContainsExact candidate value) || anyField fields

mutual
/-- The comparison finds every string and every key of the tree. -/
theorem jsonValueContainsExact_eq_false (candidate : String) : ∀ value : Json,
    jsonValueContainsExact candidate value = false ↔
      ∀ text ∈ value.texts, strContains text candidate = false
  | .null | .bool _ | .number _ => by simp [jsonValueContainsExact, texts]
  | .string _ => by simp [jsonValueContainsExact, texts]
  | .array items => by
    rw [jsonValueContainsExact, texts]
    exact anyItem_eq_false candidate items
  | .object fields => by
    rw [jsonValueContainsExact, texts]
    exact anyField_eq_false candidate fields

theorem anyItem_eq_false (candidate : String) : ∀ items : List Json,
    jsonValueContainsExact.anyItem candidate items = false ↔
      ∀ text ∈ itemTexts items, strContains text candidate = false
  | [] => by simp [jsonValueContainsExact.anyItem, itemTexts]
  | item :: items => by
    rw [jsonValueContainsExact.anyItem, itemTexts, Bool.or_eq_false_iff,
      jsonValueContainsExact_eq_false candidate item, anyItem_eq_false candidate items,
      List.forall_mem_append]

theorem anyField_eq_false (candidate : String) : ∀ fields : List (String × Json),
    jsonValueContainsExact.anyField candidate fields = false ↔
      ∀ text ∈ fieldTexts fields, strContains text candidate = false
  | [] => by simp [jsonValueContainsExact.anyField, fieldTexts]
  | (key, value) :: fields => by
    rw [jsonValueContainsExact.anyField, Json.fieldTexts, Bool.or_eq_false_iff,
      Bool.or_eq_false_iff, jsonValueContainsExact_eq_false candidate value,
      anyField_eq_false candidate fields, List.forall_mem_cons, List.forall_mem_append, and_assoc]
end

/-- `OpenAiResponsesReasoningItem::contains_exact_for_reflection_guard`. -/
def OpenAiResponsesReasoningItem.containsExact (item : OpenAiResponsesReasoningItem)
    (candidate : String) : Bool :=
  strContains item.id.val candidate ||
  item.summary.any (strContains · candidate) ||
  item.content.any (fun parts => parts.any (strContains · candidate)) ||
  item.encryptedContent.any (fun data => strContains data.val candidate) ||
  item.status.any (fun status => strContains status.asStr candidate)

/-- `OpenRouterReasoningTopology::contains_exact_for_reflection_guard`. -/
def OpenRouterReasoningTopology.containsExact (parseJson : String → Option Json)
    (topology : OpenRouterReasoningTopology) (candidate : String) : Bool :=
  topology.reasoning.any (strContains · candidate) ||
  topology.reasoningDetails.any fun details =>
    details.any fun detail => (parseJson detail).any (jsonValueContainsExact candidate)

/-! ### Requests -/

inductive MessageRole
  | system
  | user
  | assistant
deriving DecidableEq

inductive MessageStatus
  | pending
  | complete
  | cancelled
  | failed
deriving DecidableEq

structure Message where
  conversationId : String
  role : MessageRole
  content : String

/-- The exact catalog target of a generation. -/
structure GenerationProviderProvenance where
  apiFamily : ApiFamily

/-- The temperature is the bit pattern of an `f64`. -/
structure GenerationRequest where
  generationId : String
  conversationId : String
  model : String
  messages : List Message
  temperature : Option UInt64
  maxOutputTokens : Option Nat
  providerProvenance : Option GenerationProviderProvenance
  preserveOpaqueReasoningState : Bool

/-! ### Events -/

inductive ProviderEvent
  | textDelta (delta : String)
  | reasoningDelta (delta : String)
  | opaqueReasoningState (state : OpaqueReasoningState)
  | toolCallStarted (id : ToolCallId) (name : ToolName)
  | toolCallArgumentsDelta (id : ToolCallId) (delta : ToolCallArgumentsDelta)
  | toolCallCompleted (id : ToolCallId)
deriving DecidableEq

namespace ProviderEvent

def text? : ProviderEvent → Option String
  | .textDelta delta => some delta
  | _ => none

def reasoning? : ProviderEvent → Option String
  | .reasoningDelta delta => some delta
  | _ => none

/-- The argument text of one call. -/
def arguments? (id : ToolCallId) : ProviderEvent → Option String
  | .toolCallArgumentsDelta id' delta => if id' = id then some delta.val else none
  | _ => none

/-- The call an event mentions, and what it does to it. -/
def call? : ProviderEvent → Option (ToolCallId × Mark)
  | .toolCallStarted id _ => some (id, .opened)
  | .toolCallArgumentsDelta id _ => some (id, .within)
  | .toolCallCompleted id => some (id, .closed)
  | _ => none

end ProviderEvent

end LorePia
