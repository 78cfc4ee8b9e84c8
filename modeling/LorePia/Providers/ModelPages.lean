import LorePia.Lib.Canonical
import LorePia.Parameters.Reasoning

namespace LorePia.Providers.ModelPages

open Lib
open Parameters (OpenRouterReasoningEffort OpenRouterReasoningEffortSupport)
open ProviderStore (ModelAvailability)

/-!
# Model lists — one page

What a page of a provider's model list says: the usable models, reduced to bounded fields, and the
cursor of the next page.  There are five formats; a page in which one record fails a check is
refused whole.

The derived JSON decoders are parameters, and so is the search for credential-like tokens, which
measures Shannon entropy in floating point.
-/

def hardMaxModels : Nat := 10000
def maxModelIdBytes : Nat := 512
def maxDisplayNameBytes : Nat := 1024
def maxMethodCount : Nat := 64
def maxMethodBytes : Nat := 128
def maxSupportedParameterCount : Nat := 64
def maxSupportedParameterBytes : Nat := 128
def maxReasoningEffortCount : Nat := 64
def maxReasoningEffortBytes : Nat := 128

/-! ### Listed models -/

inductive ListedModelCapability
  | reasoning
  | toolCalling
  | parallelToolCalling
  | structuredOutput
  | jsonMode
  | logprobs
  | seed
deriving DecidableEq

inductive OpenRouterSupportedParameter
  | frequencyPenalty
  | includeReasoning
  | logprobs
  | maxCompletionTokens
  | maxTokens
  | parallelToolCalls
  | presencePenalty
  | reasoning
  | reasoningEffort
  | responseFormat
  | seed
  | stop
  | structuredOutputs
  | temperature
  | toolChoice
  | tools
  | topP
deriving DecidableEq

def OpenRouterSupportedParameter.parse (value : String) : Option OpenRouterSupportedParameter :=
  match value with
  | "frequency_penalty" => some .frequencyPenalty
  | "include_reasoning" => some .includeReasoning
  | "logprobs" => some .logprobs
  | "max_completion_tokens" => some .maxCompletionTokens
  | "max_tokens" => some .maxTokens
  | "parallel_tool_calls" => some .parallelToolCalls
  | "presence_penalty" => some .presencePenalty
  | "reasoning" => some .reasoning
  | "reasoning_effort" => some .reasoningEffort
  | "response_format" => some .responseFormat
  | "seed" => some .seed
  | "stop" => some .stop
  | "structured_outputs" => some .structuredOutputs
  | "temperature" => some .temperature
  | "tool_choice" => some .toolChoice
  | "tools" => some .tools
  | "top_p" => some .topP
  | _ => none

inductive OpenRouterSupportedParameterSupport
  | notExposed
  | exact (values : List OpenRouterSupportedParameter)

structure ListedModelReasoningCapability where
  supportedEfforts : OpenRouterReasoningEffortSupport
  defaultEffort : Option OpenRouterReasoningEffort
  defaultEnabled : Option Bool
  supportsMaxTokens : Option Bool
  mandatory : Option Bool

structure ListedModelCapabilities where
  supported : List ListedModelCapability
  parameters : OpenRouterSupportedParameterSupport
  reasoning : Option ListedModelReasoningCapability

def ListedModelCapabilities.default : ListedModelCapabilities := ⟨[], .notExposed, none⟩

inductive ModelRecordSource
  | providerApi

structure ListedModel where
  modelId : String
  displayName : Option String
  maxInputTokens : Option Nat
  maxOutputTokens : Option Nat
  supportedGenerationMethods : List String
  capabilities : ListedModelCapabilities
  source : ModelRecordSource
  availability : ModelAvailability

structure ParsedModelPage where
  models : List ListedModel
  nextCursor : Option String

/-! ### What the decoders return -/

structure OpenAiModelList where
  data : List String

/-- A field that is absent, `null` or a value. -/
inductive MissingNullOrValue (α : Type)
  | missing
  | null
  | value (value : α)

structure OpenRouterReasoningMetadata where
  supportedEfforts : MissingNullOrValue (List String)
  defaultEffort : Option String
  defaultEnabled : Option Bool
  supportsMaxTokens : Option Bool
  mandatory : Option Bool

structure OpenRouterTopProvider where
  contextLength : Option Nat
  maxCompletionTokens : Option Nat

structure OpenRouterModel where
  id : String
  name : Option String
  contextLength : Option Nat
  topProvider : Option OpenRouterTopProvider
  supportedParameters : MissingNullOrValue (List String)
  reasoning : Option OpenRouterReasoningMetadata

structure OpenRouterModelList where
  data : List OpenRouterModel

structure AnthropicModel where
  id : String
  displayName : Option String
  maxInputTokens : Option Nat
  maxTokens : Option Nat

/-- `has_more` is false where the page has no such field. -/
structure AnthropicModelList where
  data : List AnthropicModel
  hasMore : Bool
  lastId : Option String

structure GeminiModel where
  name : String
  displayName : Option String
  inputTokenLimit : Option Nat
  outputTokenLimit : Option Nat
  supportedGenerationMethods : List String

structure GeminiModelList where
  models : List GeminiModel
  nextPageToken : Option String

structure OllamaModel where
  model : Option String
  name : Option String

structure OllamaModelList where
  models : List OllamaModel

structure ListingExternals where
  containsCredentialLikeToken : String → Bool
  openAi : Bytes → Option OpenAiModelList
  openRouter : Bytes → Option OpenRouterModelList
  anthropic : Bytes → Option AnthropicModelList
  gemini : Bytes → Option GeminiModelList
  ollama : Bytes → Option OllamaModelList

variable (uuid : String) (X : ListingExternals)

def providerUnavailable (message : String) : CoreError :=
  .new uuid .providerUnavailable message true

/-! ### Checks -/

def validateModelId (value : String) : CoreResult Unit :=
  require (value ≠ "" ∧ byteLen value ≤ maxModelIdBytes ∧ trim value = value ∧
      hasControl value = false ∧ X.containsCredentialLikeToken value = false)
    (providerUnavailable uuid "provider returned an invalid model identifier")

def isGeminiIdChar (c : Char) : Bool := isAsciiAlphanumeric c || c == '-' || c == '_' || c == '.'

def validateGeminiModelId (value : String) : CoreResult Unit := do
  validateModelId uuid X value
  require (value.toList.all isGeminiIdChar = true ∧ value ≠ "." ∧ value ≠ "..")
    (providerUnavailable uuid "provider returned an invalid Gemini model identifier")

def validateDisplayName (value : String) : CoreResult Unit :=
  require (byteLen value ≤ maxDisplayNameBytes ∧ hasControl value = false ∧
      X.containsCredentialLikeToken value = false)
    (providerUnavailable uuid "provider returned an invalid model display name")

/-- A short name: not empty, bounded, printable, and no credential. -/
def isPlainName (maxBytes : Nat) (value : String) : Bool :=
  value ≠ "" && byteLen value ≤ maxBytes && !hasControl value &&
    !X.containsCredentialLikeToken value

variable (values : List String)

def validateMethods : CoreResult Unit :=
  require (values.length ≤ maxMethodCount ∧ values.all (isPlainName X maxMethodBytes) = true)
    (providerUnavailable uuid "provider returned invalid model generation methods")

def validateSupportedParameters : CoreResult Unit :=
  require (values.length ≤ maxSupportedParameterCount ∧
      values.all (isPlainName X maxSupportedParameterBytes) = true)
    (providerUnavailable uuid "provider returned invalid supported parameter metadata")

def invalidReasoningEffort : CoreError :=
  providerUnavailable uuid "provider returned invalid reasoning effort metadata"

def validateReasoningEffortString (value : String) : CoreResult Unit :=
  require (isPlainName X maxReasoningEffortBytes value = true) (invalidReasoningEffort uuid)

def ensureRawModelCount (count : Nat) : CoreResult Unit :=
  require (count ≤ hardMaxModels)
    (providerUnavailable uuid "provider model list exceeded the hard record limit")

def parseJson {α : Type} (decoded : Option α) : CoreResult α :=
  okOr decoded (providerUnavailable uuid "provider returned a malformed model list")

def normalizedModel (modelId : String) (displayName : Option String)
    (maxInputTokens maxOutputTokens : Option Nat) (supportedGenerationMethods : List String) :
    CoreResult ListedModel := do
  validateModelId uuid X modelId
  forSome (validateDisplayName uuid X) displayName
  validateMethods uuid X supportedGenerationMethods
  return { modelId
           displayName
           maxInputTokens
           maxOutputTokens
           supportedGenerationMethods := canonical id supportedGenerationMethods
           capabilities := .default
           source := .providerApi
           availability := .available }

/-! ### OpenRouter metadata -/

def OpenRouterReasoningEffort.parse (value : String) : Option OpenRouterReasoningEffort :=
  match value with
  | "max" => some .max
  | "xhigh" => some .xhigh
  | "high" => some .high
  | "medium" => some .medium
  | "low" => some .low
  | "minimal" => some .minimal
  | "none" => some .none
  | _ => none

def parseReasoningEffort (value : String) :
    CoreResult (Option OpenRouterReasoningEffort) := do
  validateReasoningEffortString uuid X value
  return OpenRouterReasoningEffort.parse value

def parseDefaultEffort : Option String → CoreResult (Option OpenRouterReasoningEffort)
  | some value => parseReasoningEffort uuid X value
  | none => return none

def parseSupportedEfforts :
    MissingNullOrValue (List String) → CoreResult OpenRouterReasoningEffortSupport
  | .missing => return .notExposed
  | .null => return .allGateway
  | .value efforts => do
    require (efforts.length ≤ maxReasoningEffortCount) (invalidReasoningEffort uuid)
    let parsed ← efforts.mapM (parseReasoningEffort uuid X)
    return .exact (canonical OpenRouterReasoningEffort.ctorIdx (parsed.filterMap id))

def supportsEffort (effort : OpenRouterReasoningEffort) :
    OpenRouterReasoningEffortSupport → Bool
  | .notExposed => false
  | .allGateway => OpenRouterReasoningEffort.all.contains effort
  | .exact efforts => efforts.contains effort

def normalizeOpenrouterReasoning (raw : OpenRouterReasoningMetadata) :
    CoreResult ListedModelReasoningCapability := do
  let defaultEffort ← parseDefaultEffort uuid X raw.defaultEffort
  let supportedEfforts ← parseSupportedEfforts uuid X raw.supportedEfforts
  require (defaultEffort.all (fun effort => supportsEffort effort supportedEfforts) = true)
    (providerUnavailable uuid "provider returned contradictory reasoning defaults")
  require (¬ (raw.mandatory = some true ∧ (supportsEffort .none supportedEfforts = true ∨
      defaultEffort = some .none ∨ raw.defaultEnabled = some false) ∨
      defaultEffort = some .none ∧ raw.defaultEnabled = some true))
    (providerUnavailable uuid "provider returned contradictory reasoning metadata")
  return { supportedEfforts
           defaultEffort
           defaultEnabled := raw.defaultEnabled
           supportsMaxTokens := raw.supportsMaxTokens
           mandatory := raw.mandatory }

def parseSupportedParameters :
    MissingNullOrValue (List String) → CoreResult (List OpenRouterSupportedParameter)
  | .missing | .null =>
    .error (providerUnavailable uuid "provider returned malformed supported parameter metadata")
  | .value values => do
    validateSupportedParameters uuid X values
    return canonical OpenRouterSupportedParameter.ctorIdx
      (values.filterMap OpenRouterSupportedParameter.parse)

/-- The capabilities that single parameters stand for, in the order of the list. -/
def supportedCapabilities (parameters : List OpenRouterSupportedParameter) :
    List ListedModelCapability :=
  let entry (parameter : OpenRouterSupportedParameter) (capability : ListedModelCapability) :=
    if parameters.contains parameter then [capability] else []
  (if parameters.contains .reasoning || parameters.contains .reasoningEffort then [.reasoning]
    else []) ++
    entry .tools .toolCalling ++ entry .parallelToolCalls .parallelToolCalling ++
    entry .structuredOutputs .structuredOutput ++ entry .responseFormat .jsonMode ++
    entry .logprobs .logprobs ++ entry .seed .seed

def normalizeReasoning :
    Option OpenRouterReasoningMetadata → CoreResult (Option ListedModelReasoningCapability)
  | none => return none
  | some raw => do
    let reasoning ← normalizeOpenrouterReasoning uuid X raw
    return some reasoning

def normalizeOpenrouterCapabilities (supportedParameters : MissingNullOrValue (List String))
    (reasoning : Option OpenRouterReasoningMetadata) :
    CoreResult ListedModelCapabilities := do
  let parameters ← parseSupportedParameters uuid X supportedParameters
  require (reasoning.isSome = true → parameters.contains .reasoning = true ∨
      parameters.contains .reasoningEffort = true)
    (providerUnavailable uuid
      "provider returned reasoning metadata without a supported reasoning request parameter")
  require (parameters.contains .parallelToolCalls = true → parameters.contains .tools = true)
    (providerUnavailable uuid "provider returned parallel tool metadata without tool support")
  let reasoning ← normalizeReasoning uuid X reasoning
  return { supported := canonical ListedModelCapability.ctorIdx (supportedCapabilities parameters)
           parameters := .exact parameters
           reasoning }

/-! ### The formats -/

def openAiModel (id : String) : CoreResult ListedModel :=
  normalizedModel uuid X id none none none []

def parseOpenaiModels (body : Bytes) : CoreResult ParsedModelPage := do
  let page ← parseJson uuid (X.openAi body)
  ensureRawModelCount uuid page.data.length
  let models ← page.data.mapM (openAiModel uuid X)
  return { models, nextCursor := none }

def openRouterModel (model : OpenRouterModel) : CoreResult ListedModel := do
  let capabilities ← normalizeOpenrouterCapabilities uuid X model.supportedParameters
    model.reasoning
  let normalized ← normalizedModel uuid X model.id model.name
    ((model.topProvider.bind OpenRouterTopProvider.contextLength).or model.contextLength)
    (model.topProvider.bind OpenRouterTopProvider.maxCompletionTokens) []
  return { normalized with capabilities }

def parseOpenrouterModels (body : Bytes) : CoreResult ParsedModelPage := do
  let page ← parseJson uuid (X.openRouter body)
  ensureRawModelCount uuid page.data.length
  let models ← page.data.mapM (openRouterModel uuid X)
  return { models, nextCursor := none }

def anthropicModel (model : AnthropicModel) : CoreResult ListedModel :=
  normalizedModel uuid X model.id model.displayName model.maxInputTokens model.maxTokens
    ["messages"]

def anthropicCursor (hasMore : Bool) (lastId : Option String) :
    CoreResult (Option String) :=
  if hasMore then do
    let cursor ← okOr (lastId.filter fun cursor => cursor ≠ "")
      (providerUnavailable uuid "provider model list omitted the next pagination cursor")
    return some cursor
  else return none

def parseAnthropicModels (body : Bytes) : CoreResult ParsedModelPage := do
  let page ← parseJson uuid (X.anthropic body)
  ensureRawModelCount uuid page.data.length
  let models ← page.data.mapM (anthropicModel uuid X)
  let nextCursor ← anthropicCursor uuid page.hasMore page.lastId
  return { models, nextCursor }

/-- The models that can generate content are the usable ones. -/
def GeminiModel.isUsable (model : GeminiModel) : Bool :=
  model.supportedGenerationMethods.any fun method =>
    method = "generateContent" || method = "streamGenerateContent"

def geminiModel (model : GeminiModel) : CoreResult ListedModel := do
  let modelId := (stripPrefix? model.name "models/").getD model.name
  validateGeminiModelId uuid X modelId
  normalizedModel uuid X modelId model.displayName model.inputTokenLimit model.outputTokenLimit
    model.supportedGenerationMethods

def parseGeminiModels (body : Bytes) : CoreResult ParsedModelPage := do
  let page ← parseJson uuid (X.gemini body)
  ensureRawModelCount uuid page.models.length
  let models ← (page.models.filter GeminiModel.isUsable).mapM (geminiModel uuid X)
  return { models, nextCursor := page.nextPageToken.filter fun cursor => cursor ≠ "" }

def ollamaModel (model : OllamaModel) : CoreResult ListedModel := do
  let modelId ← okOr ((model.model.filter fun value => value ≠ "").or
      (model.name.filter fun value => value ≠ ""))
    (providerUnavailable uuid "provider returned a model without an ID")
  normalizedModel uuid X modelId model.name none none ["chat"]

def parseOllamaModels (body : Bytes) : CoreResult ParsedModelPage := do
  let page ← parseJson uuid (X.ollama body)
  ensureRawModelCount uuid page.models.length
  let models ← page.models.mapM (ollamaModel uuid X)
  return { models, nextCursor := none }

inductive ModelListResponseSchema
  | familyDefault
  | openRouter

def parseModelPage (family : ApiFamily) (body : Bytes) : CoreResult ParsedModelPage :=
  match family with
  | .openAiResponses | .openAiChatCompletions => parseOpenaiModels uuid X body
  | .anthropicMessages => parseAnthropicModels uuid X body
  | .geminiGenerateContent => parseGeminiModels uuid X body
  | .ollamaNative => parseOllamaModels uuid X body

variable (schema : ModelListResponseSchema)

/-- The page in the format of the listing. -/
def parsePage (family : ApiFamily) (body : Bytes) :
    CoreResult ParsedModelPage :=
  match schema with
  | .familyDefault => parseModelPage uuid X family body
  | .openRouter => parseOpenrouterModels uuid X body

/-! ### The end of the list -/

/-- The provider says, in the format of the page, that no page follows. -/
def SignalsEnd (family : ApiFamily) (body : Bytes) : Prop :=
  schema = .familyDefault → match family with
    | .anthropicMessages => ∀ list, X.anthropic body = some list → list.hasMore = false
    | .geminiGenerateContent => ∀ list, X.gemini body = some list →
      list.nextPageToken = none ∨ list.nextPageToken = some ""
    | .openAiResponses | .openAiChatCompletions | .ollamaNative => True

variable {uuid X}

theorem anthropicCursor_ok {hasMore : Bool} (h : anthropicCursor uuid hasMore lastId = .ok cursor) :
    cursor = none ↔ hasMore = false := by
  cases hasMore with
  | false =>
    cases h
    simp
  | true =>
    obtain ⟨_, _, h⟩ := bind_ok.mp h
    cases h
    simp

/-- **A page names no next cursor iff the provider signals the end.** -/
theorem nextCursor_eq_none_iff {schema : ModelListResponseSchema}
    (h : parsePage uuid X schema family body = .ok page) :
    page.nextCursor = none ↔ SignalsEnd X schema family body := by
  have hnone : ∀ {records : CoreResult (List ListedModel)},
      (do let models ← records; return ({ models, nextCursor := none } : ParsedModelPage)) =
        .ok page → page.nextCursor = none := by
    intro records h
    obtain ⟨models, _, h⟩ := bind_ok.mp h
    cases h
    rfl
  cases schema with
  | openRouter =>
    obtain ⟨_, _, h⟩ := rest₂ h
    simp [hnone h, SignalsEnd]
  | familyDefault =>
    cases family with
    | anthropicMessages =>
      obtain ⟨list, hlist, _, _, h⟩ := steps₂ h
      obtain ⟨models, _, cursor, hcursor, h⟩ := steps₂ h
      cases h
      have hdec : X.anthropic body = some list := okOr_ok.mp hlist
      simp [SignalsEnd, hdec, anthropicCursor_ok hcursor]
    | geminiGenerateContent =>
      obtain ⟨list, hlist, _, _, models, _, h⟩ := steps₃ h
      cases h
      have hdec : X.gemini body = some list := okOr_ok.mp hlist
      cases htoken : list.nextPageToken <;> simp [SignalsEnd, hdec, htoken]
    | openAiResponses | openAiChatCompletions | ollamaNative =>
      obtain ⟨_, _, h⟩ := rest₂ h
      simp [hnone h, SignalsEnd]

end LorePia.Providers.ModelPages
