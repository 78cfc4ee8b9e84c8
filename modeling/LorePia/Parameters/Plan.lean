import LorePia.Parameters.Engine
import LorePia.Parameters.Reasoning

namespace LorePia.Parameters

open Lib
open ProviderStore (F64 ToolPolicy ParameterLiteral)

/-!
# Parameters — the request plan

The gate before the network: validated parameters, reasoning settings and cache settings become
patches of the request body, each under the path of a field that the adapter does not own, or
the combination is refused.

Numbers are given from outside: how a float is written, how it is read back, and the parser of
the schemas that a parameter may hold.
-/

/-- `json!` of a float, `Value::as_f64`, and `serde_json::from_str`. -/
structure WireFormat where
  number : F64 → Json
  asF64? : Json → Option F64
  parseJson : String → Option Json

/-! ### Parameters -/

inductive AllowedWireValue
  | boolean
  | integer
  | number
  | string
  | enum
  | stopSequenceList
  | jsonSchema
  | toolPolicy

def unsupportedMapping (parameterId message : String) : ParameterEngineError :=
  .one ⟨.unsupportedMapping, some parameterId, none, message⟩

/-- `reserved_parameter_field`. -/
def reservedParameterField (field : String) : Bool :=
  let lower := toAsciiLowercase field
  (["model", "messages", "message", "input", "contents", "system", "instructions", "tools",
      "stream", "timeout", "url", "endpoint", "authorization", "api_key", "apikey", "metadata",
      "reasoning", "reasoning_effort", "thinking", "cache_control", "cachedcontent",
      "prompt_cache_key", "prompt_cache_retention"].contains ((splitAt ['.'] lower).headD "")) ||
    (stripPrefix? lower "generationconfig.thinkingconfig.").isSome ||
    (stripPrefix? lower "output_config.effort").isSome

/-- The rows of `allowed_parameter_field`: the fields of a family, by what they hold. -/
def allowedParameterFields : ApiFamily → List (String × AllowedWireValue)
  | .openAiResponses =>
    [("temperature", .number), ("top_p", .number), ("max_output_tokens", .integer),
      ("service_tier", .enum), ("truncation", .enum), ("parallel_tool_calls", .boolean),
      ("tool_choice", .toolPolicy)]
  | .openAiChatCompletions =>
    [("temperature", .number), ("top_p", .number), ("presence_penalty", .number),
      ("frequency_penalty", .number), ("max_tokens", .integer),
      ("max_completion_tokens", .integer), ("seed", .integer), ("stop", .stopSequenceList),
      ("service_tier", .enum), ("parallel_tool_calls", .boolean), ("logprobs", .boolean),
      ("tool_choice", .toolPolicy)]
  | .anthropicMessages =>
    [("temperature", .number), ("top_p", .number), ("max_tokens", .integer),
      ("top_k", .integer), ("stop_sequences", .stopSequenceList), ("tool_choice", .toolPolicy),
      ("output_config.format", .jsonSchema)]
  | .geminiGenerateContent =>
    [("generationConfig.temperature", .number), ("generationConfig.topP", .number),
      ("generationConfig.presencePenalty", .number),
      ("generationConfig.frequencyPenalty", .number),
      ("generationConfig.maxOutputTokens", .integer), ("generationConfig.topK", .integer),
      ("generationConfig.seed", .integer), ("generationConfig.stopSequences", .stopSequenceList),
      ("generationConfig.responseMimeType", .string),
      ("generationConfig.responseLogprobs", .boolean),
      ("generationConfig.responseJsonSchema", .jsonSchema),
      ("toolConfig.functionCallingConfig.mode", .toolPolicy)]
  | .ollamaNative =>
    [("options.temperature", .number), ("options.top_p", .number), ("options.min_p", .number),
      ("options.num_predict", .integer), ("options.top_k", .integer), ("options.seed", .integer),
      ("options.stop", .stopSequenceList), ("keep_alive", .string), ("format", .jsonSchema)]

/-- `allowed_parameter_field`. -/
def allowedParameterField (family : ApiFamily) (field : String) : Option AllowedWireValue :=
  ((allowedParameterFields family).find? fun row => row.1 = field).map Prod.snd

/-- `validate_mapping_target`. -/
def validateMappingTarget (family : ApiFamily) (parameterId : String)
    (target : ProviderParameterTarget) (field : String) :
    Except ParameterEngineError AllowedWireValue := do
  require (target ≠ .requestHeader)
    (unsupportedMapping parameterId "generation parameters may not write request headers")
  require (reservedParameterField field = false)
    (unsupportedMapping parameterId ("adapter-owned identity, content, stream, reasoning, " ++
      "cache, or security fields may not be overridden"))
  okOr (allowedParameterField family field) (unsupportedMapping parameterId
      ("request field " ++ field ++ " is not allowlisted for this API family"))

/-- `json!` of an integer. -/
def jsonInteger (value : Int) : Json :=
  if 0 ≤ value then .number (.posInt value.toNat) else .number (.negInt value)

/-- `map_tool_policy`. -/
def mapToolPolicy (family : ApiFamily) (field : String) (policy : ToolPolicy) :
    Except String Json :=
  match family, policy with
  | .openAiResponses, policy | .openAiChatCompletions, policy =>
    if field = "tool_choice" then
      .ok (.string (match policy with
        | .none => "none"
        | .auto => "auto"
        | .required => "required"))
    else .error "tool policy has no exact mapping for this request field"
  | .anthropicMessages, policy =>
    if field = "tool_choice" then
      .ok (.object [("type", .string (match policy with
        | .none => "none"
        | .auto => "auto"
        | .required => "any"))])
    else .error "tool policy has no exact mapping for this request field"
  | .geminiGenerateContent, policy =>
    if field = "toolConfig.functionCallingConfig.mode" then
      .ok (.string (match policy with
        | .none => "NONE"
        | .auto => "AUTO"
        | .required => "ANY"))
    else .error "tool policy has no exact mapping for this request field"
  | .ollamaNative, _ => .error "tool policy has no exact mapping for this request field"

section Wire

variable (wire : WireFormat)

/-- The schema that a parameter holds, as the family wants it. -/
def schemaToWire (family : ApiFamily) (field schema : String) : Except String Json := do
  let parsed ← okOr (wire.parseJson schema) "JSON schema is invalid"
  require (parsed.isObject = true) "JSON schema must be an object"
  return if family = .anthropicMessages ∧ field = "output_config.format" then
    .object [("schema", parsed), ("type", .string "json_schema")]
  else parsed

/-- `literal_to_wire`. -/
def literalToWire (family : ApiFamily) (field : String) (expected : AllowedWireValue)
    (literal : ParameterLiteral) : Except String Json :=
  match expected, literal with
  | .boolean, .boolean value => .ok (.bool value)
  | .integer, .integer value => .ok (jsonInteger value)
  | .number, .number value =>
    if value.isFinite then .ok (wire.number value)
    else .error "literal type does not match the allowlisted request field"
  | .string, .string value | .enum, .enum value => .ok (.string value)
  | .stopSequenceList, .stopSequenceList values => .ok (.array (values.map .string))
  | .jsonSchema, .jsonSchema schema => schemaToWire wire family field schema
  | .toolPolicy, .toolPolicy policy => mapToolPolicy family field policy
  | _, _ => .error "literal type does not match the allowlisted request field"

/-- `map_applied_parameter`. -/
def mapAppliedParameter (family : ApiFamily) (parameter : AppliedParameter) :
    Except ParameterEngineError (String × Json) := do
  let field := parameter.mapping.fieldName
  let expected ← validateMappingTarget family parameter.parameterId parameter.mapping.target field
  let value ← (literalToWire wire family field expected parameter.value).mapError fun message =>
    unsupportedMapping parameter.parameterId (field ++ ": " ++ message)
  return (field, value)

/-- The patches of the parameters, one by one. -/
def mapParameters (family : ApiFamily) :
    List AppliedParameter → Patches → Except ParameterEngineError Patches
  | [], patches => .ok patches
  | parameter :: parameters, patches => do
    let (path, value) ← mapAppliedParameter wire family parameter
    let patches ← insertUniquePatch patches path value parameter.parameterId
    mapParameters family parameters patches

end Wire

/-! ### The prompt cache -/

inductive PromptCacheMode
  | providerDefault
  | automatic
  | explicitBreakpoints
  | explicitContext
  | disabledIfSupported
deriving DecidableEq

inductive PromptCacheTtl
  | providerDefault
  | short
  | long
  | customSeconds (seconds : Nat)
deriving DecidableEq

structure PromptCacheSettings where
  mode : PromptCacheMode
  ttl : PromptCacheTtl
  contextReference : Option String

def PromptCacheSettings.default : PromptCacheSettings := ⟨.providerDefault, .providerDefault, none⟩

inductive PromptCacheWireDialect
  | unsupported
  | openAiAutomatic (supports24HourRetention : Bool)
  | anthropic (supportsAutomatic supportsExplicitBreakpoints supportsOneHourTtl : Bool)
  | gemini (supportsImplicit supportsExplicitContext : Bool)
deriving DecidableEq

inductive AnthropicCacheTtl
  | fiveMinutes
  | oneHour

inductive PromptCacheDirective
  | none
  | providerManagedAutomatic
  | anthropicAutomatic (ttl : AnthropicCacheTtl)
  | anthropicExplicitBreakpoints (ttl : AnthropicCacheTtl)
  | anthropicDisabled
  | geminiExplicitContext (resourceName : String) (requestedTtl : PromptCacheTtl)

def maxCustomCacheTtlSeconds : Nat := 30 * 24 * 60 * 60

def unsupportedCache (message : String) : ParameterEngineError :=
  .one ⟨.unsupportedPromptCache, none, none, message⟩

def invalidCacheReference (message : String) : ParameterEngineError :=
  .one ⟨.invalidPromptCacheReference, none, none, message⟩

/-- `validate_cache_dialect_family`. -/
def validateCacheDialectFamily (family : ApiFamily) (dialect : PromptCacheWireDialect) :
    Except ParameterEngineError Unit :=
  match family, dialect with
  | _, .unsupported
  | .openAiResponses, .openAiAutomatic _
  | .openAiChatCompletions, .openAiAutomatic _
  | .anthropicMessages, .anthropic ..
  | .geminiGenerateContent, .gemini .. => .ok ()
  | _, _ => .error (unsupportedCache
      "prompt-cache capability dialect does not match the API family")

/-- The seconds of a custom lifetime. -/
def PromptCacheTtl.inBounds : PromptCacheTtl → Bool
  | .customSeconds seconds => decide (seconds ≠ 0 ∧ seconds ≤ maxCustomCacheTtlSeconds)
  | _ => true

/-- `validate_prompt_cache_shape`. -/
def validatePromptCacheShape (settings : PromptCacheSettings) :
    Except ParameterEngineError Unit := do
  require (¬ (settings.mode ≠ .explicitContext ∧ settings.contextReference.isSome))
    (invalidCacheReference "a cache resource reference is valid only for explicit context mode")
  require (settings.ttl.inBounds = true)
    (unsupportedCache "custom prompt-cache TTL must be between 1 and 2592000 seconds")
  require (¬ (settings.mode = .providerDefault ∧ settings.ttl ≠ .providerDefault))
    (unsupportedCache "provider-default cache mode may not override the TTL")

variable (ttl : PromptCacheTtl)

/-- `anthropic_cache_ttl`. -/
def anthropicCacheTtl (supportsOneHourTtl : Bool) :
    Except ParameterEngineError AnthropicCacheTtl :=
  match ttl with
  | .providerDefault | .short => .ok .fiveMinutes
  | .long =>
    if supportsOneHourTtl then .ok .oneHour
    else
      .error (unsupportedCache "this Anthropic route has no observed one-hour prompt cache")
  | .customSeconds _ =>
    .error (unsupportedCache "Anthropic prompt cache supports only five-minute or one-hour TTLs")

/-- `validate_gemini_cache_reference`. -/
def validateGeminiCacheReference (reference : String) : Except ParameterEngineError Unit := do
  let suffix ← okOr (stripPrefix? reference "cachedContents/")
    (invalidCacheReference "Gemini cache name must start with cachedContents/")
  require (suffix ≠ "" ∧ byteLen suffix ≤ 128 ∧
      (suffix.toList.all fun c => isAsciiAlphanumeric c || c == '_' || c == '-') = true)
    (invalidCacheReference "Gemini cachedContents resource id is malformed")

/-- The lifetime of OpenAI's automatic cache. -/
def mapOpenAiCacheTtl (supports24HourRetention : Bool)
    (patches : Patches) : Except ParameterEngineError Patches :=
  match ttl with
  | .providerDefault | .short => .ok patches
  | .long =>
    if supports24HourRetention then
      insertNormalizedPatch patches "prompt_cache_retention" (.string "24h")
    else
      .error (unsupportedCache "this OpenAI route has no observed 24-hour cache retention")
  | .customSeconds _ => .error (unsupportedCache "OpenAI prompt cache does not accept a custom TTL")

/-- The cache of OpenAI's families. -/
def mapOpenAiCache (family : ApiFamily) (settings : PromptCacheSettings)
    (supports24HourRetention : Bool) (patches : Patches) :
    Except ParameterEngineError (PromptCacheDirective × Patches) := do
  require (family = .openAiResponses ∨ family = .openAiChatCompletions)
    (unsupportedCache "OpenAI cache dialect does not match the API family")
  require (settings.mode = .automatic)
    (unsupportedCache ("OpenAI prompt caching is automatic and has no explicit context or " ++
      "disable control"))
  let patches ← mapOpenAiCacheTtl settings.ttl supports24HourRetention patches
  return (.providerManagedAutomatic, patches)

/-- The cache of Anthropic's messages; the mode is not the provider's default. -/
def mapAnthropicCache (family : ApiFamily) (settings : PromptCacheSettings)
    (supportsAutomatic supportsExplicitBreakpoints supportsOneHourTtl : Bool) :
    Except ParameterEngineError PromptCacheDirective := do
  require (family = .anthropicMessages)
    (unsupportedCache "Anthropic cache dialect does not match the API family")
  match settings.mode with
  | .automatic => do
    require (supportsAutomatic = true)
      (unsupportedCache "this Anthropic route has no observed automatic cache mode")
    let ttl ← anthropicCacheTtl settings.ttl supportsOneHourTtl
    return .anthropicAutomatic ttl
  | .explicitBreakpoints => do
    require (supportsExplicitBreakpoints = true)
      (unsupportedCache "this Anthropic route has no observed explicit cache breakpoints")
    let ttl ← anthropicCacheTtl settings.ttl supportsOneHourTtl
    return .anthropicExplicitBreakpoints ttl
  | .disabledIfSupported => do
    require (settings.ttl = .providerDefault)
      (unsupportedCache "disabled Anthropic caching may not include a hidden TTL value")
    return .anthropicDisabled
  | .explicitContext =>
    .error (unsupportedCache
      "Anthropic Messages uses cache controls, not a cache resource reference")
  | .providerDefault => return .none

/-- The cache of Gemini; the mode is not the provider's default. -/
def mapGeminiCache (family : ApiFamily) (settings : PromptCacheSettings)
    (supportsImplicit supportsExplicitContext : Bool) :
    Except ParameterEngineError PromptCacheDirective := do
  require (family = .geminiGenerateContent)
    (unsupportedCache "Gemini cache dialect does not match the API family")
  match settings.mode with
  | .automatic => do
    require (supportsImplicit = true)
      (unsupportedCache "this Gemini route has no observed implicit caching")
    require (settings.ttl = .providerDefault)
      (unsupportedCache "Gemini implicit caching does not expose a per-request TTL")
    return .providerManagedAutomatic
  | .explicitContext => do
    require (supportsExplicitContext = true)
      (unsupportedCache "this Gemini route has no observed explicit context caching")
    require (settings.ttl = .providerDefault)
      (unsupportedCache ("Gemini cached-content TTL is fixed when the cache resource is " ++
        "created and cannot be changed by generateContent"))
    let reference ← okOr settings.contextReference
      (invalidCacheReference "Gemini explicit context requires a cachedContents resource name")
    validateGeminiCacheReference reference
    return .geminiExplicitContext reference .providerDefault
  | .explicitBreakpoints =>
    .error (unsupportedCache "Gemini context caching does not use inline breakpoints")
  | .disabledIfSupported =>
    .error (unsupportedCache "Gemini implicit caching cannot be disabled per request")
  | .providerDefault => return .none

/-- `map_prompt_cache`. -/
def mapPromptCache (family : ApiFamily) (settings : PromptCacheSettings)
    (dialect : PromptCacheWireDialect) (patches : Patches) :
    Except ParameterEngineError (PromptCacheDirective × Patches) := do
  validatePromptCacheShape settings
  if settings.mode = .providerDefault then return (.none, patches)
  match dialect with
  | .unsupported =>
    .error (unsupportedCache "the selected model route has no provider prompt-cache control")
  | .openAiAutomatic supports24HourRetention =>
    mapOpenAiCache family settings supports24HourRetention patches
  | .anthropic supportsAutomatic supportsExplicitBreakpoints supportsOneHourTtl => do
    let directive ← mapAnthropicCache family settings supportsAutomatic
      supportsExplicitBreakpoints supportsOneHourTtl
    return (directive, patches)
  | .gemini supportsImplicit supportsExplicitContext => do
    let directive ← mapGeminiCache family settings supportsImplicit supportsExplicitContext
    return (directive, patches)

/-! ### Combinations -/

/-- The dialect thinks with a fixed budget. -/
def ReasoningWireDialect.isAnthropicExtended : ReasoningWireDialect → Bool
  | .anthropicExtended .. => true
  | _ => false

def ReasoningWireDialect.isAnthropicAdaptive : ReasoningWireDialect → Bool
  | .anthropicAdaptive .. => true
  | _ => false

section Wire

variable (wire : WireFormat)

/-- `0.95`, as the nearest float. -/
def minimumThinkingTopP : Rat := ⟨4278419646001971, 4503599627370496, by decide, by decide⟩

/-- `!(0.95..=1.0).contains(&top_p)`. -/
def topPOutside (value : F64) : Bool :=
  value.lt (.finite minimumThinkingTopP) || F64.lt (.finite 1) value || decide (value = .nan)

/-- What Anthropic's thinking excludes. -/
def validateThinking (manual : Bool) (patches : Patches) : Except ParameterEngineError Unit := do
  require (¬ (manual = true ∧ (((patches.get? "tool_choice").bind fun choice =>
      (choice.get? "type").bind Json.asStr?).any fun choice =>
        choice != "auto" && choice != "none") = true))
    (unsupportedReasoning "Anthropic active thinking cannot force tool use")
  require (¬ ((patches.get? "temperature").isSome ∨ (patches.get? "top_k").isSome))
    (unsupportedReasoning "Anthropic thinking cannot be combined with temperature or top_k")
  require ((((patches.get? "top_p").bind wire.asF64?).any topPOutside) = false)
    (unsupportedReasoning "Anthropic thinking requires top_p between 0.95 and 1")

/-- The budget of a manual thinking mode, below the tokens of the answer. -/
def validateThinkingBudget (settings : ReasoningSettings) (patches : Patches) :
    Except ParameterEngineError Unit :=
  require ((((patches.get? "max_tokens").bind Json.asU64?).any fun maxTokens =>
      settings.budgetTokens.any fun budget => decide (maxTokens ≤ budget)) = false)
    (unsupportedReasoning "Anthropic thinking budget must be less than max_tokens")

/-- `validate_cross_feature_combinations`. -/
def validateCrossFeatureCombinations (family : ApiFamily) (reasoning : ReasoningSettings)
    (dialect : ReasoningWireDialect) (patches : Patches) : Except ParameterEngineError Unit := do
  let manual := decide (family = .anthropicMessages) && dialect.isAnthropicExtended &&
    reasoning.mode == .enabled
  let adaptive := decide (family = .anthropicMessages) && dialect.isAnthropicAdaptive &&
    reasoning.mode == .automatic
  if adaptive || manual then validateThinking wire manual patches
  if manual then validateThinkingBudget reasoning patches
  require (¬ (family = .openAiChatCompletions ∧ (patches.get? "max_tokens").isSome ∧
      (patches.get? "max_completion_tokens").isSome))
    (.one ⟨.conflictingRequestField, none, none,
      "max_tokens and max_completion_tokens are mutually exclusive"⟩)
  require (¬ (family = .geminiGenerateContent ∧
      (patches.get? "generationConfig.responseJsonSchema").isSome ∧
      (patches.get? "generationConfig.responseMimeType").bind Json.asStr? ≠
        some "application/json"))
    (.one ⟨.unsupportedMapping, none, none,
      "Gemini responseJsonSchema requires responseMimeType application/json"⟩)

/-! ### The plan -/

/-- A field of the request body. -/
structure RequestBodyPatch where
  path : String
  value : Json

structure ProviderRequestPlan where
  family : ApiFamily
  bodyPatches : List RequestBodyPatch
  promptCache : PromptCacheDirective
  preserveOpaqueReasoningState : Bool

/-- `build_provider_request_plan`. -/
def buildProviderRequestPlan (family : ApiFamily) (parameters : ValidatedParameterSet)
    (reasoning : ReasoningSettings) (reasoningDialect : ReasoningWireDialect)
    (promptCache : PromptCacheSettings) (cacheDialect : PromptCacheWireDialect) :
    Except ParameterEngineError ProviderRequestPlan := do
  validateReasoningDialectFamily family reasoningDialect
  validateReasoningDialectMetadataShape reasoningDialect
  validateCacheDialectFamily family cacheDialect
  validateOpaqueReasoningPreservation family reasoning
  let patches ← mapParameters wire family parameters.applied .empty
  let patches ← mapReasoning family reasoning reasoningDialect patches
  let (promptCache, patches) ← mapPromptCache family promptCache cacheDialect patches
  validateCrossFeatureCombinations wire family reasoning reasoningDialect patches
  return {
    family
    bodyPatches := patches.entries.map fun entry => ⟨entry.1, entry.2⟩
    promptCache
    preserveOpaqueReasoningState :=
      reasoning.preserveOpaqueState && family != .geminiGenerateContent }

end Wire

end LorePia.Parameters
