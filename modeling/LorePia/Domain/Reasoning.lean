import LorePia.Domain.Provider

namespace LorePia

open Lib

/-!
# Retained reasoning state

The constructors through which adapters build the provider-native state of `Provider.lean`:
bounded texts and inputs of Anthropic blocks, the topology of an Anthropic answer, and the
details and the topology of OpenRouter.  Printing JSON and the sizes of its serializer are
parameters.
-/

def maxAnthropicContentBlocks : Nat := 128
def maxAnthropicBlockTextChars : Nat := 64 * 1024
def maxAnthropicToolInputDepth : Nat := 32
def maxAnthropicToolInputNodes : Nat := 4 * 1024

/-! ### Anthropic -/

/-- `AnthropicBlockText::parse`. -/
def anthropicBlockTextParse (value : String) : Except String String := do
  require (byteLen value ≤ maxOpaqueReasoningTotalBytes ∧
      charCount value ≤ maxAnthropicBlockTextChars)
    "Anthropic block text exceeds the 262144-byte or 65536-character limit"
  return value

/-- The children of a JSON value. -/
def Json.children : Json → List Json
  | .array items => items
  | .object fields => fields.map Prod.snd
  | _ => []

/-- The loop of `validate_anthropic_tool_input_shape`, over its stack with the top in front.
    Its rounds are bounded by the number of nodes it admits. -/
def visitToolInput : Nat → Nat → List (Json × Nat) → Except String Unit
  | _, _, [] => .ok ()
  | 0, _, _ => .error "Anthropic tool input exceeds the 4096-node limit"
  | rounds + 1, nodes, (current, depth) :: stack => do
    require (nodes + 1 ≤ maxAnthropicToolInputNodes)
      "Anthropic tool input exceeds the 4096-node limit"
    require (depth ≤ maxAnthropicToolInputDepth) "Anthropic tool input exceeds depth 32"
    visitToolInput rounds (nodes + 1)
      ((current.children.reverse.map fun child => (child, depth + 1)) ++ stack)

variable (value : Json)

def validateAnthropicToolInputShape : Except String Unit :=
  visitToolInput (maxAnthropicToolInputNodes + 1) 0 [(value, 0)]

variable (printJson : Json → Option String)

/-- `AnthropicToolInput::from_value`. -/
def anthropicToolInputFromValue (value : Json) :
    Except String Json := do
  require (value.isObject = true) "Anthropic tool input must be a JSON object"
  validateAnthropicToolInputShape value
  let encoded ← okOr (printJson value) "Anthropic tool input must be valid JSON"
  require (byteLen encoded ≤ maxOpaqueReasoningItemBytes)
    "Anthropic tool input exceeds the 65536-byte limit"
  return value

def AnthropicContentBlock.isReasoning : AnthropicContentBlock → Bool
  | .thinking _ _ | .redactedThinking _ => true
  | _ => false

def AnthropicContentBlock.isText : AnthropicContentBlock → Bool
  | .text _ => true
  | _ => false

def AnthropicContentBlock.isToolUse : AnthropicContentBlock → Bool
  | .toolUse _ _ _ => true
  | _ => false

/-- No reasoning block follows a text block. -/
def reasoningFirst : Bool → List AnthropicContentBlock → Except String Unit
  | _, [] => .ok ()
  | visibleContentSeen, block :: blocks => do
    require (¬ (block.isReasoning = true ∧ visibleContentSeen = true))
      "Anthropic thinking blocks must precede text blocks"
    reasoningFirst (visibleContentSeen || block.isText) blocks

/-- `AnthropicContentBlockTopology::new`. -/
def anthropicContentBlockTopologyNew (Z : ReasoningSizes) (blocks : List AnthropicContentBlock) :
    Except String (List AnthropicContentBlock) := do
  require (blocks ≠ [] ∧ blocks.length ≤ maxAnthropicContentBlocks)
    "Anthropic content topology must contain between 1 and 128 blocks"
  require (blocks.any AnthropicContentBlock.isReasoning = true)
    "Anthropic opaque topology must contain a thinking block"
  reasoningFirst false blocks
  require (Z.blocks blocks ≤ maxOpaqueReasoningTotalBytes)
    "Anthropic content topology exceeds the 262144-byte limit"
  return blocks

/-! ### OpenRouter -/

/-- A field is absent, null or a string. -/
def nullableString (key : String) : Prop :=
  ∀ field ∈ value.get? key, field.isNull = true ∨ field.asStr?.isSome = true

instance (value : Json) (key : String) : Decidable (nullableString value key) :=
  inferInstanceAs (Decidable (∀ field ∈ value.get? key,
    field.isNull = true ∨ field.asStr?.isSome = true))

/-- `validate_openrouter_reasoning_detail`. -/
def validateOpenrouterReasoningDetail : Except String Unit := do
  require (value.isObject = true) "OpenRouter reasoning detail must be a JSON object"
  let kind ← okOr ((value.get? "type").bind Json.asStr?)
    "OpenRouter reasoning detail must contain a string type"
  let requiredPayload ←
    if kind = "reasoning.summary" then pure (some "summary")
    else if kind = "reasoning.encrypted" then pure (some "data")
    else if kind = "reasoning.text" then pure none
    else .error "OpenRouter reasoning detail type is unsupported"
  forSome (fun payload => require (((value.get? payload).bind Json.asStr?).isSome = true)
    ("OpenRouter " ++ kind ++ " detail must contain a string " ++ payload)) requiredPayload
  require (nullableString value "text") "OpenRouter reasoning text must be a string or null"
  require (nullableString value "id") "OpenRouter reasoning detail id must be a string or null"
  require (nullableString value "format")
    "OpenRouter reasoning detail format must be a string or null"
  require (∀ format ∈ (value.get? "format").bind Json.asStr?, format ≠ "" ∧
      byteLen format ≤ maxToolNameBytes ∧ charCount format ≤ maxToolNameChars ∧
      hasControl format = false)
    "OpenRouter reasoning detail format must be a bounded identifier"
  require (∀ index ∈ value.get? "index", index.isNull = true ∨ index.asU64?.isSome = true)
    "OpenRouter reasoning detail index must be a non-negative integer"
  require (kind = "reasoning.text" → nullableString value "signature")
    "OpenRouter reasoning text signature must be a string or null"

/-- `OpenRouterReasoningDetail::from_value`: the canonical text of a detail. -/
def openRouterReasoningDetailFromValue (value : Json) :
    Except String String := do
  validateOpenrouterReasoningDetail value
  let canonical ← okOr (printJson value) "OpenRouter reasoning detail must be valid JSON"
  validateBoundedProtocolText "OpenRouter reasoning detail" canonical maxOpaqueReasoningItemBytes
    maxOpaqueReasoningItemBytes false
  return canonical

/-- The indexes of the details follow their order. -/
def detailsInOrder (parseJson : String → Option Json) : Nat → List String → Except String Unit
  | _, [] => .ok ()
  | expected, detail :: details => do
    let value ← okOr (parseJson detail) "OpenRouter reasoning topology contains malformed details"
    require (∀ index ∈ (value.get? "index").bind Json.asU64?, index = expected)
      "OpenRouter reasoning detail indexes must follow logical order"
    detailsInOrder parseJson (expected + 1) details

/-- `OpenRouterReasoningTopology::new`. -/
def openRouterReasoningTopologyNew (parseJson : String → Option Json) (Z : ReasoningSizes)
    (reasoning : Option String) (reasoningDetails : Option (List String)) :
    Except String OpenRouterReasoningTopology := do
  require (¬ (reasoning = none ∧ reasoningDetails = none))
    "OpenRouter reasoning topology must retain an observed field"
  require (∀ text ∈ reasoning, byteLen text ≤ maxOpaqueReasoningTotalBytes ∧
      charCount text ≤ maxOpaqueReasoningTotalBytes)
    "OpenRouter reasoning text exceeds the 262144-byte or character limit"
  require (∀ details ∈ reasoningDetails, details.length ≤ maxOpaqueReasoningStateCount)
    "OpenRouter reasoning topology exceeds the 32-detail limit"
  forSome (detailsInOrder parseJson 0) reasoningDetails
  require (Z.topology ⟨reasoning, reasoningDetails⟩ ≤ maxOpaqueReasoningTotalBytes)
    "OpenRouter reasoning topology exceeds the 262144-byte limit"
  return ⟨reasoning, reasoningDetails⟩

end LorePia
