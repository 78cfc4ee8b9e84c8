import LorePia.Parameters.Schema

namespace LorePia.Parameters

open Lib

/-!
# Parameters — reasoning

The reasoning settings of a preset, and what each wire dialect makes of them.  A dialect adds
patches to those that the parameters made, or refuses the combination; nothing reaches the
network then.  The budgets are `u32` in the source, and only compared here.

* `mapReasoning` — the dialects;
* `validateReasoningDialectMetadataShape`, `validateReasoningShape` — what is refused for every
  dialect.
-/

inductive ReasoningMode
  | providerDefault
  | disabled
  | automatic
  | enabled
deriving DecidableEq

inductive ReasoningEffort
  | minimal
  | low
  | medium
  | high
  | extraHigh
  | maximum
deriving DecidableEq

inductive ReasoningSummaryMode
  | providerDefault
  | disabled
  | automatic
  | concise
  | detailed
deriving DecidableEq

structure ReasoningSettings where
  mode : ReasoningMode
  effort : Option ReasoningEffort
  budgetTokens : Option Nat
  summary : ReasoningSummaryMode
  preserveOpaqueState : Bool

def ReasoningSettings.default : ReasoningSettings :=
  ⟨.providerDefault, none, none, .providerDefault, false⟩

inductive OpenRouterReasoningEffort
  | max
  | xhigh
  | high
  | medium
  | low
  | minimal
  | none
deriving DecidableEq

/-- `OpenRouterReasoningEffort::ALL`. -/
def OpenRouterReasoningEffort.all : List OpenRouterReasoningEffort :=
  [.max, .xhigh, .high, .medium, .low, .minimal, .none]

inductive OpenRouterReasoningEffortSupport
  | notExposed
  | allGateway
  | exact (efforts : List OpenRouterReasoningEffort)
deriving DecidableEq

inductive OpenRouterReasoningWireStyle
  | unified
  | legacyReasoningEffort
deriving DecidableEq

inductive ReasoningWireDialect
  | unsupported
  | openAiResponses (efforts : List ReasoningEffort) (summaries : List ReasoningSummaryMode)
      (supportsDisabled : Bool)
  | openAiChatCompletions (efforts : List ReasoningEffort) (supportsDisabled : Bool)
  | openRouter (style : OpenRouterReasoningWireStyle)
      (supportedEfforts : OpenRouterReasoningEffortSupport)
      (defaultEffort : Option OpenRouterReasoningEffort) (defaultEnabled : Option Bool)
      (supportsMaxTokens : Option Bool) (mandatory : Option Bool)
  | anthropicAdaptive (efforts : List ReasoningEffort) (summaries : List ReasoningSummaryMode)
      (supportsDisabled : Bool)
  | anthropicExtended (minimumBudgetTokens maximumBudgetTokens : Nat)
      (efforts : List ReasoningEffort) (summaries : List ReasoningSummaryMode)
      (supportsDisabled : Bool)
  | geminiThinkingLevel (efforts : List ReasoningEffort) (supportsAutomatic : Bool)
      (summaries : List ReasoningSummaryMode)
  | geminiThinkingBudget (minimumBudgetTokens maximumBudgetTokens : Nat)
      (supportsZeroToDisable supportsAutomatic : Bool) (summaries : List ReasoningSummaryMode)
  | ollamaBoolean
  | ollamaLevel (efforts : List ReasoningEffort) (supportsDisabled : Bool)
deriving DecidableEq

/-! ### Errors and patches -/

/-- `ParameterEngineError::one`. -/
def ParameterEngineError.one (issue : ParameterIssue) : ParameterEngineError := ⟨[issue]⟩

def unsupportedReasoning (message : String) : ParameterEngineError :=
  .one ⟨.unsupportedReasoning, none, none, message⟩

/-- The patches of a request, by their paths. -/
abbrev Patches := SortedMap String Json

variable (patches : Patches)

/-- `insert_unique_patch`. -/
def insertUniquePatch (path : String) (value : Json) (parameterId : String) :
    Except ParameterEngineError Patches :=
  if (patches.get? path).isSome then
    .error (.one ⟨.conflictingRequestField, some parameterId, none,
      "more than one setting writes request field " ++ path⟩)
  else .ok (patches.insert path value)

/-- `insert_normalized_patch`. -/
def insertNormalizedPatch (path : String) (value : Json) :
    Except ParameterEngineError Patches :=
  if (patches.get? path).isSome then
    .error (.one ⟨.conflictingRequestField, none, none,
      "normalized setting conflicts with request field " ++ path⟩)
  else .ok (patches.insert path value)

/-! ### The checks of a dialect -/

variable (family : ApiFamily)

/-- `validate_reasoning_dialect_family`. -/
def validateReasoningDialectFamily (dialect : ReasoningWireDialect) :
    Except ParameterEngineError Unit :=
  match family, dialect with
  | _, .unsupported
  | .openAiResponses, .openAiResponses ..
  | .openAiChatCompletions, .openAiChatCompletions ..
  | .openAiChatCompletions, .openRouter ..
  | .anthropicMessages, .anthropicAdaptive ..
  | .anthropicMessages, .anthropicExtended ..
  | .geminiGenerateContent, .geminiThinkingLevel ..
  | .geminiGenerateContent, .geminiThinkingBudget ..
  | .ollamaNative, .ollamaBoolean
  | .ollamaNative, .ollamaLevel .. => .ok ()
  | _, _ => .error (unsupportedReasoning
      "reasoning capability dialect does not match the API family")

variable (style : OpenRouterReasoningWireStyle)

/-- `validate_openrouter_reasoning_style`. -/
def validateOpenrouterReasoningStyle
    (supported : OpenRouterReasoningEffortSupport) : Except ParameterEngineError Unit :=
  require (¬ (style = .legacyReasoningEffort ∧ supported = .notExposed)) (unsupportedReasoning
      "legacy OpenRouter reasoning_effort requires an exposed supported effort list")

/-- The efforts of a model listing, if it has them. -/
def OpenRouterReasoningEffortSupport.exactEfforts :
    OpenRouterReasoningEffortSupport → Option (List OpenRouterReasoningEffort)
  | .notExposed => none
  | .allGateway => some OpenRouterReasoningEffort.all
  | .exact efforts => some efforts

variable (supported : OpenRouterReasoningEffortSupport)

def OpenRouterReasoningEffortSupport.contains (effort : OpenRouterReasoningEffort) : Bool :=
  supported.exactEfforts.any fun efforts => efforts.contains effort

/-- An exact list names every effort once. -/
def validateExactEfforts : OpenRouterReasoningEffortSupport → Except ParameterEngineError Unit
  | .exact efforts =>
    require (efforts.length ≤ OpenRouterReasoningEffort.all.length ∧ efforts.Nodup)
      (unsupportedReasoning
        "OpenRouter reasoning metadata contains duplicate or excessive effort values")
  | _ => .ok ()

/-- `validate_openrouter_reasoning_metadata`. -/
def validateOpenrouterReasoningMetadata (supportedEfforts : OpenRouterReasoningEffortSupport)
    (defaultEffort : Option OpenRouterReasoningEffort) (defaultEnabled mandatory : Option Bool) :
    Except ParameterEngineError Unit := do
  validateExactEfforts supportedEfforts
  require (defaultEffort.all supportedEfforts.contains = true)
    (unsupportedReasoning "OpenRouter reasoning default is not an exposed supported effort")
  require (¬ (mandatory = some true ∧ (supportedEfforts.contains .none = true ∨
        defaultEffort = some .none ∨ defaultEnabled = some false) ∨
      defaultEffort = some .none ∧ defaultEnabled = some true))
    (unsupportedReasoning "OpenRouter reasoning metadata contains contradictory defaults")

/-- The efforts and the summaries that a dialect lists. -/
def ReasoningWireDialect.listed :
    ReasoningWireDialect → List ReasoningEffort × List ReasoningSummaryMode
  | .openAiResponses efforts summaries _ => (efforts, summaries)
  | .anthropicAdaptive efforts summaries _ => (efforts, summaries)
  | .anthropicExtended _ _ efforts summaries _ => (efforts, summaries)
  | .geminiThinkingLevel efforts _ summaries => (efforts, summaries)
  | .openAiChatCompletions efforts _ => (efforts, [])
  | .ollamaLevel efforts _ => (efforts, [])
  | .geminiThinkingBudget _ _ _ _ summaries => ([], summaries)
  | .unsupported | .ollamaBoolean | .openRouter .. => ([], [])

/-- What Anthropic has no level for. -/
def validateAnthropicLevels (efforts : List ReasoningEffort)
    (summaries : List ReasoningSummaryMode) : Except ParameterEngineError Unit :=
  require (¬ (.minimal ∈ efforts ∨ .concise ∈ summaries ∨ .detailed ∈ summaries))
    (unsupportedReasoning
      "Anthropic reasoning metadata contains an unsupported effort or summary level")

/-- The values of a dialect, beside their being distinct. -/
def validateDialectValues : ReasoningWireDialect → Except ParameterEngineError Unit
  | .anthropicAdaptive efforts summaries _ => validateAnthropicLevels efforts summaries
  | .anthropicExtended minimum maximum efforts summaries _ => do
    validateAnthropicLevels efforts summaries
    require (¬ (minimum = 0 ∨ maximum < minimum))
      (unsupportedReasoning "Anthropic reasoning budget metadata has invalid bounds")
  | .ollamaLevel efforts _ => do
    require (efforts ≠ []) (unsupportedReasoning
        "Ollama reasoning level metadata requires at least one supported effort")
    require (∀ effort ∈ efforts, effort ∈ [.low, .medium, .high, .maximum]) (unsupportedReasoning
        "Ollama native think levels are limited to low, medium, high, and max")
  | .geminiThinkingBudget minimum maximum _ _ _ =>
    require (¬ (maximum = 0 ∨ maximum < minimum))
      (unsupportedReasoning "Gemini reasoning budget metadata has invalid bounds")
  | _ => .ok ()

/-- `validate_reasoning_dialect_metadata_shape`. -/
def validateReasoningDialectMetadataShape (dialect : ReasoningWireDialect) :
    Except ParameterEngineError Unit :=
  match dialect with
  | .openRouter style supportedEfforts defaultEffort defaultEnabled _ mandatory => do
    validateOpenrouterReasoningStyle style supportedEfforts
    validateOpenrouterReasoningMetadata supportedEfforts defaultEffort defaultEnabled mandatory
  | .unsupported | .ollamaBoolean => .ok ()
  | dialect => do
    require (dialect.listed.1.Nodup ∧ dialect.listed.2.Nodup)
      (unsupportedReasoning "reasoning capability metadata contains duplicate enum values")
    validateDialectValues dialect

/-! ### The checks of the settings -/

/-- `validate_opaque_reasoning_preservation`. -/
def validateOpaqueReasoningPreservation (settings : ReasoningSettings) :
    Except ParameterEngineError Unit :=
  require (¬ (family = .geminiGenerateContent ∧ settings.preserveOpaqueState = true))
    (unsupportedReasoning "Gemini opaque reasoning state requires exact prior content topology")

variable (settings : ReasoningSettings)

/-- `validate_reasoning_shape`. -/
def validateReasoningShape : Except ParameterEngineError Unit := do
  require (¬ (settings.mode = .disabled ∧ (settings.effort.isSome ∨ settings.budgetTokens.isSome ∨
      ¬ (settings.summary = .providerDefault ∨ settings.summary = .disabled))))
    (unsupportedReasoning
      "disabled reasoning may not include effort, budget, or an enabled summary")
  require (¬ (settings.mode = .providerDefault ∧ (settings.effort.isSome ∨
      settings.budgetTokens.isSome ∨ settings.summary ≠ .providerDefault)))
    (unsupportedReasoning
      "provider-default reasoning may not include effort, budget, or summary overrides")

/-- `reasoning_effort_wire`. -/
def reasoningEffortWire : ReasoningEffort → String
  | .minimal => "minimal"
  | .low => "low"
  | .medium => "medium"
  | .high => "high"
  | .extraHigh => "xhigh"
  | .maximum => "max"

/-- `require_effort`. -/
def requireEffort (effort : Option ReasoningEffort) (allowed : List ReasoningEffort)
    (required : Bool) : Except ParameterEngineError (Option String) :=
  match effort with
  | none =>
    if required then
      .error (unsupportedReasoning "this exact reasoning mode requires an explicit effort")
    else .ok none
  | some effort => do
    require (effort ∈ allowed)
      (unsupportedReasoning "the selected model route does not support this reasoning effort")
    return some (reasoningEffortWire effort)

variable (summary : ReasoningSummaryMode)

/-- `require_summary`. -/
def requireSummary (allowed : List ReasoningSummaryMode) :
    Except ParameterEngineError Unit :=
  require (¬ (summary ≠ .providerDefault ∧ summary ∉ allowed)) (unsupportedReasoning
      "the selected model route does not support this reasoning summary mode")

/-- The patch of an effort that may be left out. -/
def insertOptionalEffort (path : String) (effort : Option ReasoningEffort)
    (allowed : List ReasoningEffort) : Except ParameterEngineError Patches := do
  match ← requireEffort effort allowed false with
  | none => return patches
  | some effort => insertNormalizedPatch patches path (.string effort)

/-- The patch of an effort that the mode requires, after which there is one. -/
def insertRequiredEffort (path : String) (effort : Option ReasoningEffort)
    (allowed : List ReasoningEffort) : Except ParameterEngineError Patches := do
  let effort ← requireEffort effort allowed true
  insertNormalizedPatch patches path (.string (effort.getD ""))

/-! ### The dialects -/

/-- The mode, for the two families of OpenAI. -/
def mapOpenAiMode (path cannotDisable noAutomatic : String) (settings : ReasoningSettings)
    (efforts : List ReasoningEffort) (supportsDisabled : Bool) (patches : Patches) :
    Except ParameterEngineError Patches :=
  match settings.mode with
  | .providerDefault => insertOptionalEffort patches path settings.effort efforts
  | .disabled =>
    if supportsDisabled then insertNormalizedPatch patches path (.string "none")
    else .error (unsupportedReasoning cannotDisable)
  | .automatic => .error (unsupportedReasoning noAutomatic)
  | .enabled => insertRequiredEffort patches path settings.effort efforts

/-- The summary of OpenAI's responses. -/
def openAiSummaryWire : ReasoningSummaryMode → Option String
  | .providerDefault | .disabled => none
  | .automatic => some "auto"
  | .concise => some "concise"
  | .detailed => some "detailed"

def insertOpenAiSummary (patches : Patches) :
    Except ParameterEngineError Patches :=
  match openAiSummaryWire summary with
  | none => .ok patches
  | some summary => insertNormalizedPatch patches "reasoning.summary" (.string summary)

/-- `map_openai_responses_reasoning`. -/
def mapOpenaiResponsesReasoning (efforts : List ReasoningEffort)
    (summaries : List ReasoningSummaryMode) (supportsDisabled : Bool) (patches : Patches) :
    Except ParameterEngineError Patches := do
  require (settings.budgetTokens = none)
    (unsupportedReasoning "OpenAI Responses reasoning does not accept a token budget")
  let patches ← mapOpenAiMode "reasoning.effort"
    "this OpenAI model cannot disable reasoning exactly"
    "OpenAI Responses has no common automatic reasoning mode" settings efforts supportsDisabled
    patches
  requireSummary settings.summary summaries
  insertOpenAiSummary settings.summary patches

/-- `map_openai_chat_reasoning`. -/
def mapOpenaiChatReasoning (efforts : List ReasoningEffort)
    (supportsDisabled : Bool) (patches : Patches) : Except ParameterEngineError Patches := do
  require (settings.budgetTokens = none)
    (unsupportedReasoning "OpenAI chat completions reasoning does not accept a token budget")
  mapOpenAiMode "reasoning_effort" "this chat-completions model cannot disable reasoning exactly"
    "chat completions has no common automatic reasoning mode" settings efforts supportsDisabled
    patches

/-- `openrouter_effort_to_reasoning_effort`. -/
def openrouterEffortToReasoningEffort : OpenRouterReasoningEffort → Option ReasoningEffort
  | .max => some .maximum
  | .xhigh => some .extraHigh
  | .high => some .high
  | .medium => some .medium
  | .low => some .low
  | .minimal => some .minimal
  | .none => none

/-- `openrouter_reasoning_efforts`. -/
def openrouterReasoningEfforts :
    List ReasoningEffort :=
  (supported.exactEfforts.getD []).filterMap openrouterEffortToReasoningEffort

/-- `openrouter_supports_disabled`. -/
def openrouterSupportsDisabled
    (supported : OpenRouterReasoningEffortSupport) (mandatory : Option Bool) : Bool :=
  if mandatory = some true then false
  else
    match style with
    | .unified => mandatory == some false || supported.contains .none
    | .legacyReasoningEffort => supported.contains .none

/-- `openrouter_supports_enabled`. -/
def openrouterSupportsEnabled :
    OpenRouterReasoningWireStyle → OpenRouterReasoningEffortSupport → Bool
  | .unified, .notExposed | .unified, .allGateway => true
  | .unified, .exact efforts => efforts.isEmpty || efforts.any (· != .none)
  | .legacyReasoningEffort, .allGateway => true
  | .legacyReasoningEffort, .exact efforts => efforts.any (· != .none)
  | .legacyReasoningEffort, .notExposed => false

/-- `openrouter_enabled_patch_path`. -/
def openrouterEnabledPatchPath : OpenRouterReasoningWireStyle → String
  | .unified => "reasoning.effort"
  | .legacyReasoningEffort => "reasoning_effort"

/-- `insert_openrouter_boolean_patch`. -/
def insertOpenrouterBooleanPatch (patches : Patches)
    (enabled : Bool) : Except ParameterEngineError Patches :=
  match style, enabled with
  | .unified, enabled => insertNormalizedPatch patches "reasoning.enabled" (.bool enabled)
  | .legacyReasoningEffort, false =>
    insertNormalizedPatch patches "reasoning_effort" (.string "none")
  | .legacyReasoningEffort, true =>
    .error (unsupportedReasoning "legacy OpenRouter reasoning requires an explicit effort")

/-- The enabled mode of OpenRouter. -/
def mapOpenrouterEnabled (style : OpenRouterReasoningWireStyle)
    (supportedEfforts : OpenRouterReasoningEffortSupport) (patches : Patches) :
    Except ParameterEngineError Patches := do
  let efforts := openrouterReasoningEfforts supportedEfforts
  require (openrouterSupportsEnabled style supportedEfforts = true)
    (unsupportedReasoning "this OpenRouter model exposes only a disabled reasoning effort")
  match ← requireEffort settings.effort efforts (!efforts.isEmpty) with
  | some effort => insertNormalizedPatch patches (openrouterEnabledPatchPath style) (.string effort)
  | none => insertOpenrouterBooleanPatch style patches true

def mapOpenrouterMode (style : OpenRouterReasoningWireStyle)
    (supportedEfforts : OpenRouterReasoningEffortSupport) (mandatory : Option Bool)
    (patches : Patches) : Except ParameterEngineError Patches :=
  match settings.mode with
  | .providerDefault => do
    require (settings.effort = none)
      (unsupportedReasoning "provider-default OpenRouter reasoning may not override effort")
    return patches
  | .disabled =>
    if openrouterSupportsDisabled style supportedEfforts mandatory then
      insertOpenrouterBooleanPatch style patches false
    else
      .error (unsupportedReasoning
        "this OpenRouter model does not expose an exact disabled reasoning mode")
  | .automatic =>
    .error (unsupportedReasoning
      "OpenRouter model metadata does not expose an automatic reasoning mode")
  | .enabled => mapOpenrouterEnabled settings style supportedEfforts patches

/-- `map_openrouter_reasoning`. -/
def mapOpenrouterReasoning (style : OpenRouterReasoningWireStyle)
    (supportedEfforts : OpenRouterReasoningEffortSupport) (supportsMaxTokens : Option Bool)
    (mandatory : Option Bool) (patches : Patches) : Except ParameterEngineError Patches := do
  validateOpenrouterReasoningStyle style supportedEfforts
  require (settings.budgetTokens = none)
    (unsupportedReasoning (if supportsMaxTokens = some true then
      "OpenRouter advertises reasoning token budgets, but this model listing provides no " ++
        "exact safe budget bounds"
    else "this OpenRouter model does not expose a bounded reasoning token budget"))
  require (settings.summary = .providerDefault)
    (unsupportedReasoning ("provider API metadata does not establish an exact OpenRouter " ++
      "reasoning exclusion control"))
  mapOpenrouterMode settings style supportedEfforts mandatory patches

/-- A summary that is only shown or hidden. -/
def mapSummaryToggle (path : String) (hidden shown : Json) (noLevels : String)
    (summary : ReasoningSummaryMode) (summaries : List ReasoningSummaryMode) (patches : Patches) :
    Except ParameterEngineError Patches := do
  requireSummary summary summaries
  match summary with
  | .providerDefault => return patches
  | .disabled => insertNormalizedPatch patches path hidden
  | .automatic => insertNormalizedPatch patches path shown
  | .concise | .detailed => .error (unsupportedReasoning noLevels)

/-- `map_anthropic_summary`. -/
def mapAnthropicSummary (summaries : List ReasoningSummaryMode)
    (patches : Patches) : Except ParameterEngineError Patches :=
  mapSummaryToggle "thinking.display" (.string "omitted") (.string "summarized")
    "Anthropic does not expose concise/detailed summary levels" summary summaries patches

/-- What both dialects of Anthropic refuse first. -/
def validateAnthropicSettings :
    Except ParameterEngineError Unit := do
  require (¬ (settings.mode = .providerDefault ∧ settings.summary ≠ .providerDefault))
    (unsupportedReasoning "provider-default Anthropic thinking may not override summary display")
  require (¬ (settings.mode = .disabled ∧
      (settings.effort.isSome ∨ settings.summary ≠ .providerDefault)))
    (unsupportedReasoning
      "disabled Anthropic thinking may not include hidden effort or summary values")

/-- What follows the mode of Anthropic's thinking. -/
def mapAnthropicLevels (efforts : List ReasoningEffort)
    (summaries : List ReasoningSummaryMode) (patches : Patches) :
    Except ParameterEngineError Patches := do
  let patches ← insertOptionalEffort patches "output_config.effort" settings.effort efforts
  mapAnthropicSummary settings.summary summaries patches

/-- The disabled mode of Anthropic, behind which nothing else is mapped. -/
def mapAnthropicDisabled (supportsDisabled : Bool) (patches : Patches) :
    Except ParameterEngineError Patches :=
  if supportsDisabled then insertNormalizedPatch patches "thinking.type" (.string "disabled")
  else
    .error (unsupportedReasoning "this Anthropic model does not allow thinking to be disabled")

/-- `map_anthropic_adaptive`. -/
def mapAnthropicAdaptive (efforts : List ReasoningEffort)
    (summaries : List ReasoningSummaryMode) (supportsDisabled : Bool) (patches : Patches) :
    Except ParameterEngineError Patches := do
  require (settings.budgetTokens = none)
    (unsupportedReasoning "Anthropic adaptive thinking does not accept budget_tokens")
  validateAnthropicSettings settings
  match settings.mode with
  | .providerDefault => mapAnthropicLevels settings efforts summaries patches
  | .disabled => mapAnthropicDisabled supportsDisabled patches
  | .automatic => do
    let patches ← insertNormalizedPatch patches "thinking.type" (.string "adaptive")
    mapAnthropicLevels settings efforts summaries patches
  | .enabled =>
    .error (unsupportedReasoning
      "adaptive thinking may skip reasoning and cannot exactly mean always enabled")

/-- The budget of an enabled mode. -/
def requireBudget (budgetTokens : Option Nat) (minimum maximum : Nat)
    (missing outside : String) : Except ParameterEngineError Nat := do
  let budget ← okOr budgetTokens (unsupportedReasoning missing)
  require (¬ (budget < minimum ∨ maximum < budget)) (unsupportedReasoning outside)
  return budget

def mapAnthropicEnabled (minimum maximum : Nat)
    (patches : Patches) : Except ParameterEngineError Patches := do
  let budget ← requireBudget settings.budgetTokens minimum maximum
    "Anthropic extended thinking requires budget_tokens"
    "Anthropic thinking budget is outside the observed model bounds"
  let patches ← insertNormalizedPatch patches "thinking.type" (.string "enabled")
  insertNormalizedPatch patches "thinking.budget_tokens" (.number (.posInt budget))

/-- `map_anthropic_extended`. -/
def mapAnthropicExtended (minimum maximum : Nat)
    (efforts : List ReasoningEffort) (summaries : List ReasoningSummaryMode)
    (supportsDisabled : Bool) (patches : Patches) : Except ParameterEngineError Patches := do
  validateAnthropicSettings settings
  match settings.mode with
  | .providerDefault => do
    require (settings.budgetTokens = none)
      (unsupportedReasoning "provider-default thinking may not include budget_tokens")
    mapAnthropicLevels settings efforts summaries patches
  | .disabled => mapAnthropicDisabled supportsDisabled patches
  | .automatic => .error (unsupportedReasoning "Anthropic extended thinking has no automatic mode")
  | .enabled => do
    let patches ← mapAnthropicEnabled settings minimum maximum patches
    mapAnthropicLevels settings efforts summaries patches

/-- `map_gemini_summary`. -/
def mapGeminiSummary (summaries : List ReasoningSummaryMode)
    (patches : Patches) : Except ParameterEngineError Patches :=
  mapSummaryToggle "generationConfig.thinkingConfig.includeThoughts" (.bool false) (.bool true)
    "Gemini exposes a summary toggle, not summary detail levels" summary summaries patches

def mapGeminiLevelMode (efforts : List ReasoningEffort)
    (supportsAutomatic : Bool) (patches : Patches) : Except ParameterEngineError Patches :=
  match settings.mode with
  | .providerDefault => do
    require (settings.effort = none)
      (unsupportedReasoning "provider-default Gemini thinkingLevel may not override effort")
    return patches
  | .disabled =>
    .error (unsupportedReasoning
      "Gemini thinkingLevel minimal does not guarantee disabled reasoning")
  | .automatic =>
    if supportsAutomatic then
      insertRequiredEffort patches "generationConfig.thinkingConfig.thinkingLevel"
        settings.effort efforts
    else
      .error (unsupportedReasoning "this Gemini route has no observed automatic thinking mode")
  | .enabled =>
    .error (unsupportedReasoning
      "Gemini thinkingLevel controls dynamic effort, not guaranteed enablement")

/-- `map_gemini_level`. -/
def mapGeminiLevel (efforts : List ReasoningEffort)
    (supportsAutomatic : Bool) (summaries : List ReasoningSummaryMode) (patches : Patches) :
    Except ParameterEngineError Patches := do
  require (settings.budgetTokens = none)
    (unsupportedReasoning "this Gemini route uses thinkingLevel, not thinkingBudget")
  let patches ← mapGeminiLevelMode settings efforts supportsAutomatic patches
  mapGeminiSummary settings.summary summaries patches

def mapGeminiBudgetMode (minimum maximum : Nat)
    (supportsZeroToDisable supportsAutomatic : Bool) (patches : Patches) :
    Except ParameterEngineError Patches :=
  let path := "generationConfig.thinkingConfig.thinkingBudget"
  match settings.mode with
  | .providerDefault => .ok patches
  | .disabled =>
    if supportsZeroToDisable then insertNormalizedPatch patches path (.number (.posInt 0))
    else
      .error (unsupportedReasoning "this Gemini model cannot disable thinking with a zero budget")
  | .automatic =>
    if supportsAutomatic then do
      require (settings.budgetTokens = none)
        (unsupportedReasoning "automatic Gemini thinking may not include a fixed budget")
      insertNormalizedPatch patches path (.number (.negInt (-1)))
    else
      .error (unsupportedReasoning "this Gemini route has no observed automatic thinking mode")
  | .enabled => do
    let budget ← requireBudget settings.budgetTokens minimum maximum
      "this Gemini route requires a thinking budget to enable reasoning"
      "Gemini thinking budget is outside the observed model bounds"
    insertNormalizedPatch patches path (.number (.posInt budget))

/-- `map_gemini_budget`. -/
def mapGeminiBudget (minimum maximum : Nat)
    (supportsZeroToDisable supportsAutomatic : Bool) (summaries : List ReasoningSummaryMode)
    (patches : Patches) : Except ParameterEngineError Patches := do
  require (settings.effort = none)
    (unsupportedReasoning "this Gemini route uses thinkingBudget, not thinkingLevel")
  let patches ← mapGeminiBudgetMode settings minimum maximum supportsZeroToDisable
    supportsAutomatic patches
  mapGeminiSummary settings.summary summaries patches

/-- `map_ollama_boolean`. -/
def mapOllamaBoolean (patches : Patches) :
    Except ParameterEngineError Patches := do
  require (settings.effort = none ∧ settings.budgetTokens = none ∧
      settings.summary = .providerDefault)
    (unsupportedReasoning "this Ollama model accepts only a boolean think setting")
  match settings.mode with
  | .providerDefault => return patches
  | .disabled => insertNormalizedPatch patches "think" (.bool false)
  | .enabled => insertNormalizedPatch patches "think" (.bool true)
  | .automatic => .error (unsupportedReasoning "Ollama has no common automatic think mode")

/-- `map_ollama_level`. -/
def mapOllamaLevel (efforts : List ReasoningEffort)
    (supportsDisabled : Bool) (patches : Patches) : Except ParameterEngineError Patches := do
  require (settings.budgetTokens = none ∧ settings.summary = .providerDefault) (unsupportedReasoning
      "this Ollama model accepts think levels but no budget or summary control")
  match settings.mode with
  | .providerDefault =>
    if settings.effort = none then return patches
    else .error (unsupportedReasoning "Ollama think effort requires enabled reasoning mode")
  | .disabled =>
    if supportsDisabled then insertNormalizedPatch patches "think" (.bool false)
    else
      .error (unsupportedReasoning "this Ollama model does not allow thinking to be disabled")
  | .automatic => .error (unsupportedReasoning "Ollama has no common automatic think mode")
  | .enabled => insertRequiredEffort patches "think" settings.effort efforts

/-- The settings leave everything to the provider. -/
def ReasoningSettings.isProviderDefault : Bool :=
  settings.mode == .providerDefault && settings.effort.isNone && settings.budgetTokens.isNone &&
    settings.summary == .providerDefault

/-- The mapping of a dialect. -/
def mapDialect (dialect : ReasoningWireDialect)
    (patches : Patches) : Except ParameterEngineError Patches :=
  match dialect with
  | .unsupported =>
    .error (unsupportedReasoning "the selected model route has no observed reasoning control")
  | .openAiResponses efforts summaries supportsDisabled =>
    mapOpenaiResponsesReasoning settings efforts summaries supportsDisabled patches
  | .openAiChatCompletions efforts supportsDisabled =>
    mapOpenaiChatReasoning settings efforts supportsDisabled patches
  | .openRouter style supportedEfforts _ _ supportsMaxTokens mandatory =>
    mapOpenrouterReasoning settings style supportedEfforts supportsMaxTokens mandatory patches
  | .anthropicAdaptive efforts summaries supportsDisabled =>
    mapAnthropicAdaptive settings efforts summaries supportsDisabled patches
  | .anthropicExtended minimum maximum efforts summaries supportsDisabled =>
    mapAnthropicExtended settings minimum maximum efforts summaries supportsDisabled patches
  | .geminiThinkingLevel efforts supportsAutomatic summaries =>
    mapGeminiLevel settings efforts supportsAutomatic summaries patches
  | .geminiThinkingBudget minimum maximum supportsZeroToDisable supportsAutomatic summaries =>
    mapGeminiBudget settings minimum maximum supportsZeroToDisable supportsAutomatic summaries
      patches
  | .ollamaBoolean => mapOllamaBoolean settings patches
  | .ollamaLevel efforts supportsDisabled =>
    mapOllamaLevel settings efforts supportsDisabled patches

/-- `map_reasoning`. -/
def mapReasoning (settings : ReasoningSettings)
    (dialect : ReasoningWireDialect) (patches : Patches) :
    Except ParameterEngineError Patches := do
  validateReasoningShape settings
  if settings.isProviderDefault then return patches
  let patches ← mapDialect settings dialect patches
  require (¬ (family = .openAiChatCompletions ∧ settings.summary ≠ .providerDefault))
    (unsupportedReasoning "OpenAI chat completions has no common reasoning-summary field")
  return patches

end LorePia.Parameters
