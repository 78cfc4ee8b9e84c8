import LorePia.Conversations.Planner
import LorePia.Conversations.Retention
import LorePia.Conversations.Task
import LorePia.Providers.OpenAiCompatible

namespace LorePia.Conversations

open Lib List
open Providers.OpenAiCompatible (Dialect)

/-!
# Reasoning continuity

A planned request is completed with the reasoning state that the replies in its history retain
for its target, and every adapter checks the completed request once more.

* `loadOpaqueReasoningContext`, `configureGenerationProtocolRequest` — what completes a request;
* `validateRequest` — the checks of the five adapters;
* `loadOpaqueReasoningContext_isOk_iff` — over a reachable store, loading fails for no reason
  but the limits on the states of the whole history together;
* `continuity_iff` — when the adapter takes the completed request.
-/

variable {Z : ReasoningSizes} {history : List Message} {states : List OpaqueReasoningState}

/-! ### Completing a request -/

structure GenerationTarget where
  modelRouteId : String
  generationPresetId : String

structure GenerationProviderProvenance where
  apiFamily : ApiFamily
  modelRouteId : String
  generationPresetId : String

/-- A prior state, with the message and the target that produced it. -/
structure OpaqueReasoningContext where
  sourceMessageId : String
  apiFamily : ApiFamily
  model : String
  modelRouteId : String
  generationPresetId : String
  state : OpaqueReasoningState

/-- A request with the fields that carry reasoning continuity. -/
structure ProtocolRequest extends GenerationRequest where
  providerProvenance : Option GenerationProviderProvenance
  preserveOpaqueReasoningState : Bool
  opaqueReasoningContext : List OpaqueReasoningContext

/-- A request as the planner leaves it. -/
def GenerationRequest.withoutContinuity (request : GenerationRequest) : ProtocolRequest where
  toGenerationRequest := request
  providerProvenance := none
  preserveOpaqueReasoningState := false
  opaqueReasoningContext := []

section Completing

variable (X : Externals) (uuid : String) (store : Store) (providerFamily : ApiFamily)
  (model : String) (generationTarget : GenerationTarget)

/-- The generation of a reply; that it is missing means the store is corrupted. -/
def getReplyGeneration (generationId : String) : CoreResult GenerationRecord :=
  (getGeneration uuid generationId store).mapError fun error =>
    if error.code = .notFound then
      storageCorrupted uuid "assistant message references a missing generation"
    else error

/-- One round of the loop over the history: what its message contributes. -/
def messageContexts (message : Message) : CoreResult (List OpaqueReasoningContext) :=
  if message.role ≠ .assistant ∨ message.status ≠ .complete then .ok []
  else
    match message.generationId with
    | none => .ok []
    | some generationId => do
      let generation ← getReplyGeneration uuid store generationId
      if generation.opaqueReasoningState = [] then .ok []
      else do
        require (generation.status = .complete ∧
            generation.conversationId = message.conversationId ∧
            generation.assistantMessageId = some message.id)
          (storageCorrupted uuid "stored opaque reasoning state has inconsistent message ownership")
        -- state of another target is left out, not refused
        if generation.providerFamily ≠ some providerFamily ∨ generation.model ≠ model ∨
            generation.modelRouteId ≠ some generationTarget.modelRouteId then .ok []
        else do
          let generationPresetId ← okOr generation.generationPresetId
            (storageCorrupted uuid "stored opaque reasoning state is missing preset provenance")
          return generation.opaqueReasoningState.map fun state =>
            { sourceMessageId := message.id
              apiFamily := providerFamily
              model
              modelRouteId := generationTarget.modelRouteId
              generationPresetId
              state }

def collectContexts : List Message → CoreResult (List OpaqueReasoningContext)
  | [] => .ok []
  | message :: history => do
    let contexts ← messageContexts uuid store providerFamily model generationTarget message
    let rest ← collectContexts history
    return contexts ++ rest

def loadOpaqueReasoningContext (history : List Message) :
    CoreResult (List OpaqueReasoningContext) := do
  let contexts ← collectContexts uuid store providerFamily model generationTarget history
  (validateOpaqueReasoningStates X.sizes (contexts.map OpaqueReasoningContext.state)).mapError
    (invalid uuid)
  return contexts

/-- The state of the request: none where it is not preserved. -/
def preservedContext (preserve : Bool) (history : List Message) :
    CoreResult (List OpaqueReasoningContext) :=
  if preserve then
    loadOpaqueReasoningContext X uuid store providerFamily model generationTarget history
  else .ok []

end Completing

/-- A connection with a credential neither captures nor replays state.  Whether the connection
    of a route has one is read from the store of connections. -/
def keepsPreservation (hasCred : String → CoreResult Bool)
    (generationTarget : Option GenerationTarget) (preserve : Bool) : CoreResult Bool :=
  match generationTarget with
  | none => .ok preserve
  | some target =>
    if preserve then do
      let credential ← hasCred target.modelRouteId
      return !credential
    else .ok false

def configureGenerationProtocolRequest (X : Externals) (uuid : String)
    (hasCred : String → CoreResult Bool) (store : Store) (request : GenerationRequest)
    (generationTarget : Option GenerationTarget) (providerFamily : Option ApiFamily)
    (preserveOpaqueReasoningState : Bool) : CoreResult ProtocolRequest := do
  let preserve ← keepsPreservation hasCred generationTarget preserveOpaqueReasoningState
  match generationTarget, providerFamily with
  | none, none => do
    require (preserve = false) (.new uuid .internal
      "generation provider protocol provenance is inconsistent" false)
    return request.withoutContinuity
  | some target, some family => do
    let contexts ← preservedContext X uuid store family request.model target preserve
      request.messages
    return { toGenerationRequest := request
             providerProvenance := some
               { apiFamily := family
                 modelRouteId := target.modelRouteId
                 generationPresetId := target.generationPresetId }
             preserveOpaqueReasoningState := preserve
             opaqueReasoningContext := contexts }
  | _, _ => .error (.new uuid .internal
      "generation provider protocol provenance is inconsistent" false)

/-! ### The checks of the adapters

The adapters make the same checks on the model, the messages and the parameters, in texts that
begin with a name of their own. -/

section Adapters

variable (X : Externals) (uuid : String) (name : String) (request : ProtocolRequest)

def requireBoundedModel : CoreResult Unit :=
  require (¬ (trim request.model = "" ∨ trim request.model ≠ request.model ∨
      byteLen request.model > Chat.maxModelIdBytes ∨
      charCount request.model > Chat.maxModelIdChars ∨ hasControl request.model = true))
    (invalid uuid (name ++ " model is not a bounded identifier"))

def requireMessageCount : CoreResult Unit :=
  require (request.messages.length ≤ Chat.maxPromptMessages)
    (invalid uuid (name ++ " prompt exceeded the message-count safety limit"))

def promptTooLargeError : CoreError :=
  invalid uuid (name ++ " prompt exceeded the input safety limit")

/-- The loop over the messages, with the totals so far. -/
def validatePrompt (conversationId : String) (totalBytes totalChars : Nat) :
    List Message → CoreResult Unit
  | [] => .ok ()
  | message :: messages => do
    require (message.conversationId = conversationId)
      (invalid uuid (name ++ " prompt contains a message from another conversation"))
    let totalBytes ← okOr (checkedAdd totalBytes (byteLen message.content))
      (promptTooLargeError uuid name)
    let totalChars ← okOr (checkedAdd totalChars (charCount message.content))
      (promptTooLargeError uuid name)
    require (totalBytes ≤ Chat.maxPromptBytes ∧ totalChars ≤ Chat.maxPromptChars)
      (promptTooLargeError uuid name)
    validatePrompt conversationId totalBytes totalChars messages

def requireOutputTokens : CoreResult Unit :=
  require (request.maxOutputTokens ≠ some 0)
    (invalid uuid (name ++ " max output tokens must be greater than zero"))

/-- `value < 0.0` of a float: the sign bit is set, and the rest is neither zero nor a NaN. -/
def isNegative (bits : UInt64) : Bool :=
  0x8000000000000000 < bits && bits ≤ 0xFFF0000000000000

/-- `(0.0..=1.0).contains(&value)`. -/
def isUnitInterval (bits : UInt64) : Bool :=
  bits ≤ 0x3FF0000000000000 || bits == 0x8000000000000000

/-- The checks of one replayed state that the two adapters with continuity share. -/
def validateContext (family : ApiFamily) (label : String)
    (hasFormat : OpaqueReasoningState → Bool) (provenance : GenerationProviderProvenance)
    (context : OpaqueReasoningContext) : CoreResult Unit := do
  require (context.apiFamily = family ∧ context.model = request.model ∧
      context.modelRouteId = provenance.modelRouteId)
    (invalid uuid "opaque reasoning state provenance does not match the current provider route")
  require (hasFormat context.state = true)
    (invalid uuid ("opaque reasoning state format does not match " ++ label))

def requireProvenance (family : ApiFamily) (label : String) :
    CoreResult GenerationProviderProvenance := do
  let provenance ← okOr request.providerProvenance
    (invalid uuid "opaque reasoning state requires provider provenance")
  require (provenance.apiFamily = family)
    (invalid uuid ("opaque reasoning state API family does not match " ++ label))
  return provenance

def openAiResponsesValidateRequest : CoreResult Unit := do
  requireBoundedModel uuid "provider" request
  requireMessageCount uuid "provider" request
  validatePrompt uuid "provider" request.conversationId 0 0 request.messages
  require (request.temperature.all Chat.isFinite = true)
    (invalid uuid "provider temperature must be a finite number")
  requireOutputTokens uuid "provider" request
  require (request.preserveOpaqueReasoningState = false ∧ request.opaqueReasoningContext = [])
    (invalid uuid "OpenAI Responses opaque reasoning continuity is unsupported")

def openAiCompatibleValidateRequest (dialect : Dialect) : CoreResult Unit := do
  requireBoundedModel uuid "provider" request
  requireMessageCount uuid "provider" request
  validatePrompt uuid "provider" request.conversationId 0 0 request.messages
  require (request.temperature.all Chat.isFinite = true)
    (invalid uuid "provider temperature must be a finite number")
  requireOutputTokens uuid "provider" request
  match dialect with
  | .standard =>
    require (request.preserveOpaqueReasoningState = false ∧ request.opaqueReasoningContext = [])
      (invalid uuid "this OpenAI-compatible route cannot preserve opaque reasoning state")
  | .openRouter =>
    if request.preserveOpaqueReasoningState = false then
      require (request.opaqueReasoningContext = [])
        (invalid uuid "opaque reasoning state requires continuity preservation")
    else do
      let provenance ← requireProvenance uuid request .openAiChatCompletions "OpenRouter"
      forEach (validateContext uuid request .openAiChatCompletions "OpenRouter"
        (matchesFamily .openAiChatCompletions) provenance) request.opaqueReasoningContext
      (validateOpaqueReasoningStates X.sizes
        (request.opaqueReasoningContext.map OpaqueReasoningContext.state)).mapError (invalid uuid)

/-- The topology of an Anthropic state has a tool-use block. -/
def hasToolUse : OpaqueReasoningState → Bool
  | .anthropicMessages contentBlocks => contentBlocks.any AnthropicContentBlock.isToolUse
  | _ => false

/-- `validate_opaque_context`. -/
def validateOpaqueContext : CoreResult Unit := do
  let provenance ← requireProvenance uuid request .anthropicMessages "Anthropic"
  forEach (fun context => do
    validateContext uuid request .anthropicMessages "Anthropic" (matchesFamily .anthropicMessages)
      provenance context
    require (hasToolUse context.state = false)
      (invalid uuid "Anthropic tool-use topology cannot be replayed without exact tool results"))
    request.opaqueReasoningContext
  (validateOpaqueReasoningStates X.sizes
    (request.opaqueReasoningContext.map OpaqueReasoningContext.state)).mapError (invalid uuid)

def anthropicValidateRequest : CoreResult Unit := do
  requireBoundedModel uuid "Anthropic" request
  requireMessageCount uuid "Anthropic" request
  validatePrompt uuid "Anthropic" request.conversationId 0 0 request.messages
  require (request.temperature.all (fun bits => Chat.isFinite bits && isUnitInterval bits) = true)
    (invalid uuid "Anthropic temperature must be between 0 and 1")
  requireOutputTokens uuid "Anthropic" request
  if request.preserveOpaqueReasoningState = false then .ok ()
  else validateOpaqueContext X uuid request

def ollamaValidateRequest : CoreResult Unit := do
  requireBoundedModel uuid "Ollama" request
  requireMessageCount uuid "Ollama" request
  require (request.messages ≠ []) (invalid uuid "Ollama chat requests require at least one message")
  validatePrompt uuid "Ollama" request.conversationId 0 0 request.messages
  require (request.temperature.all (fun bits => Chat.isFinite bits && !isNegative bits) = true)
    (invalid uuid "Ollama temperature must be a non-negative finite number")
  requireOutputTokens uuid "Ollama" request
  require (request.preserveOpaqueReasoningState = false ∧ request.opaqueReasoningContext = [])
    (invalid uuid "Ollama does not support opaque reasoning continuity")

def maxGeminiRequestMessages : Nat := 16 * 1024
def maxGeminiResponseBytes : Nat := 32 * 1024 * 1024

/-- The loop of Gemini's `request_payload` over the messages. -/
def sumRequestTextBytes (total : Nat) : List Message → CoreResult Unit
  | [] => .ok ()
  | message :: messages => do
    let total ← okOr (checkedAdd total (byteLen message.content))
      (invalid uuid "Gemini request messages are too large")
    require (total ≤ maxGeminiResponseBytes) (invalid uuid "Gemini request message is too large")
    sumRequestTextBytes total messages

/-- The checks Gemini's `request_payload` makes while it builds the payload. -/
def geminiValidateRequest : CoreResult Unit := do
  require (request.temperature.all (fun bits => Chat.isFinite bits && !isNegative bits) = true)
    (invalid uuid "Gemini temperature must be a non-negative finite number")
  requireOutputTokens uuid "Gemini" request
  require (request.messages.length ≤ maxGeminiRequestMessages)
    (invalid uuid "Gemini request contains too many messages")
  require (request.preserveOpaqueReasoningState = false ∧ request.opaqueReasoningContext = [])
    (invalid uuid "Gemini opaque reasoning state requires exact prior content topology")
  sumRequestTextBytes uuid 0 request.messages
  require (request.messages.any (fun message => message.role != .system) = true)
    (invalid uuid "Gemini generation requires at least one user or model message")

/-- The adapter of a family checks the request; the dialect is that of an OpenAI-compatible
    route. -/
def validateRequest (family : ApiFamily) (dialect : Dialect) : CoreResult Unit :=
  match family with
  | .openAiResponses => openAiResponsesValidateRequest uuid request
  | .openAiChatCompletions => openAiCompatibleValidateRequest X uuid request dialect
  | .anthropicMessages => anthropicValidateRequest X uuid request
  | .geminiGenerateContent => geminiValidateRequest uuid request
  | .ollamaNative => ollamaValidateRequest uuid request

end Adapters

/-! ### What a history carries over -/

/-- The limits of `validate_opaque_reasoning_states`. -/
structure WithinReasoningLimits (Z : ReasoningSizes) (states : List OpaqueReasoningState) :
    Prop where
  count : states.length ≤ maxOpaqueReasoningStateCount
  bytes : (states.map (OpaqueReasoningState.payloadBytes Z)).sum ≤ maxOpaqueReasoningTotalBytes
  encoded : ∃ size, Z.states states = some size ∧ size ≤ maxOpaqueReasoningSerializedBytes

/-- The loop passes iff the sum of the sizes is within the limit, and then so is every sum on
    the way. -/
theorem sumReasoningBytes_ok {total : Nat} (htotal : total ≤ maxOpaqueReasoningTotalBytes) :
    sumReasoningBytes Z total states = .ok u ↔
      total + (states.map (OpaqueReasoningState.payloadBytes Z)).sum ≤
        maxOpaqueReasoningTotalBytes := by
  induction states generalizing total with
  | nil => simpa [sumReasoningBytes] using htotal
  | cons state states ih =>
    rw [sumReasoningBytes, guard_ok, guard_ok, map_cons, sum_cons]
    have hfits : maxOpaqueReasoningTotalBytes ≤ u64Max := by decide
    constructor
    · rintro ⟨_, hmore, hrest⟩
      rw [ih hmore] at hrest
      omega
    · intro hsum
      have hmore : total + state.payloadBytes Z ≤ maxOpaqueReasoningTotalBytes := by omega
      refine ⟨by omega, hmore, (ih hmore).mpr ?_⟩
      omega

theorem validateOpaqueReasoningStates_ok :
    validateOpaqueReasoningStates Z states = .ok u ↔ WithinReasoningLimits Z states := by
  rw [validateOpaqueReasoningStates, guard_ok, bind_ok]
  constructor
  · rintro ⟨hcount, _, hsum, hencoded⟩
    obtain ⟨size, hsize, hbd⟩ := bind_ok.mp hencoded
    rw [sumReasoningBytes_ok (Nat.zero_le _), Nat.zero_add] at hsum
    exact ⟨hcount, hsum, size, okOr_ok.mp hsize, require_ok.mp hbd⟩
  · rintro ⟨hcount, hsum, size, hsize, hbd⟩
    refine ⟨hcount, (), (sumReasoningBytes_ok (Nat.zero_le _)).mpr ?_, ?_⟩
    · rw [Nat.zero_add]
      exact hsum
    · exact then_ok (okOr_ok.mpr hsize) (require_ok.mpr hbd)

/-- What a message carries over to a target: the states of a complete reply whose generation has
    the family, the model and the route of the target. -/
def Store.statesOf (store : Store) (family : ApiFamily) (model modelRouteId : String)
    (message : Message) : List OpaqueReasoningState :=
  if message.role = .assistant ∧ message.status = .complete then
    ((message.generationId.bind store.generations.find?).filter fun generation =>
      generation.providerFamily = some family ∧ generation.model = model ∧
        generation.modelRouteId = some modelRouteId).elim [] GenerationRecord.opaqueReasoningState
  else []

def Store.carriedStates (store : Store) (family : ApiFamily) (model modelRouteId : String)
    (history : List Message) : List OpaqueReasoningState :=
  history.flatMap (store.statesOf family model modelRouteId)

/-- A context is bound to the target and to a reply of the history. -/
structure BoundTo (family : ApiFamily) (model modelRouteId : String) (history : List Message)
    (context : OpaqueReasoningContext) : Prop where
  source : ∃ message ∈ history, message.role = .assistant ∧ context.sourceMessageId = message.id
  apiFamily : context.apiFamily = family
  model_eq : context.model = model
  route : context.modelRouteId = modelRouteId
  format : matchesFamily family context.state = true

section Loading

variable {store : Store} {target : GenerationTarget}

/-- The assistant messages of a history are rows of the store. -/
def StoredReplies (store : Store) (history : List Message) : Prop :=
  ∀ message ∈ history, message.role = .assistant → message ∈ store.messages.rows

/-- **One message.** Over a store whose rows say of reasoning state what they should, no check of
    the loop fails. -/
theorem messageContexts_ok (hr : Retentive X store)
    (hstored : message.role = .assistant → message ∈ store.messages.rows) :
    ∃ contexts, messageContexts uuid store family model target message = .ok contexts ∧
      contexts.map OpaqueReasoningContext.state =
        store.statesOf family model target.modelRouteId message ∧
      ∀ context ∈ contexts, BoundTo family model target.modelRouteId [message] context := by
  by_cases hreply : message.role = .assistant ∧ message.status = .complete
  · obtain ⟨hrole, hstat⟩ := hreply
    obtain ⟨generation, hmem, hnamed, hown, hconv⟩ := hr.owned message (hstored hrole) hrole
    have hfind : store.generations.find? generation.id = some generation :=
      Table.find?_eq_some.mpr ⟨hmem, rfl⟩
    have hget : getReplyGeneration uuid store generation.id = .ok generation := by
      rw [getReplyGeneration, mapError_ok, getGeneration, okOr_ok]
      exact hfind
    have hcar : store.statesOf family model target.modelRouteId message =
        if generation.providerFamily = some family ∧ generation.model = model ∧
          generation.modelRouteId = some target.modelRouteId
        then generation.opaqueReasoningState else [] := by
      rw [Store.statesOf, if_pos ⟨hrole, hstat⟩, hnamed, Option.bind_some, hfind]
      by_cases htgt : generation.providerFamily = some family ∧ generation.model = model ∧
        generation.modelRouteId = some target.modelRouteId
      · rw [if_pos htgt]
        simp [Option.filter, htgt]
      · rw [if_neg htgt, Option.filter, if_neg (by simpa using htgt)]
        rfl
    have hround : messageContexts uuid store family model target message = (do
        let found ← getReplyGeneration uuid store generation.id
        if found.opaqueReasoningState = [] then .ok []
        else do
          require (found.status = .complete ∧ found.conversationId = message.conversationId ∧
              found.assistantMessageId = some message.id)
            (storageCorrupted uuid
              "stored opaque reasoning state has inconsistent message ownership")
          if found.providerFamily ≠ some family ∨ found.model ≠ model ∨
              found.modelRouteId ≠ some target.modelRouteId then .ok []
          else do
            let generationPresetId ← okOr found.generationPresetId
              (storageCorrupted uuid "stored opaque reasoning state is missing preset provenance")
            return found.opaqueReasoningState.map fun state =>
              { sourceMessageId := message.id
                apiFamily := family
                model
                modelRouteId := target.modelRouteId
                generationPresetId
                state }) := by
      have hnot : ¬ (message.role ≠ .assistant ∨ message.status ≠ .complete) := by
        simp [hrole, hstat]
      rw [messageContexts, if_neg hnot, hnamed]
    rw [hround, hget, ok_bind, hcar]
    by_cases hempty : generation.opaqueReasoningState = []
    · rw [if_pos hempty, hempty, ite_self]
      exact ⟨[], rfl, rfl, fun context h => (not_mem_nil h).elim⟩
    · rw [if_neg hempty]
      have hretains := hr.retained generation hmem hempty
      rw [require_true ⟨hretains.complete, hconv, hown⟩, ok_bind]
      by_cases htgt : generation.providerFamily = some family ∧ generation.model = model ∧
        generation.modelRouteId = some target.modelRouteId
      · have hnot : ¬ (generation.providerFamily ≠ some family ∨ generation.model ≠ model ∨
            generation.modelRouteId ≠ some target.modelRouteId) := by
          simp [htgt]
        obtain ⟨preset, hpre⟩ := Option.isSome_iff_exists.mp hretains.preset
        rw [if_neg hnot, if_pos htgt, hpre]
        refine ⟨_, rfl, ?_, ?_⟩
        · rw [map_map]
          exact map_id' _
        · refine forall_mem_map.mpr fun state hst => ?_
          obtain ⟨family', hfam', hformat⟩ := hretains.format
          have hsame : family' = family := Option.some.inj (hfam'.symm.trans htgt.1)
          exact ⟨⟨message, mem_singleton_self _, hrole, rfl⟩, rfl, rfl, rfl,
            hsame ▸ hformat state hst⟩
      · have hor : generation.providerFamily ≠ some family ∨ generation.model ≠ model ∨
            generation.modelRouteId ≠ some target.modelRouteId := by
          by_contra hnot
          simp only [not_or, not_not] at hnot
          exact htgt hnot
        rw [if_pos hor, if_neg htgt]
        exact ⟨[], rfl, rfl, fun context h => (not_mem_nil h).elim⟩
  · have hor : message.role ≠ .assistant ∨ message.status ≠ .complete := by
      by_contra hnot
      simp only [not_or, not_not] at hnot
      exact hreply hnot
    rw [messageContexts, if_pos hor, Store.statesOf, if_neg hreply]
    exact ⟨[], rfl, rfl, fun context h => (not_mem_nil h).elim⟩

theorem BoundTo.mono {history' : List Message}
    (h : BoundTo family model target.modelRouteId history context)
    (hsub : ∀ message ∈ history, message ∈ history') :
    BoundTo family model target.modelRouteId history' context := by
  obtain ⟨message, hmsg, hsrc⟩ := h.source
  exact ⟨⟨message, hsub message hmsg, hsrc⟩, h.apiFamily, h.model_eq, h.route, h.format⟩

/-- **The whole loop**, by induction on the history. -/
theorem collectContexts_ok (hr : Retentive X store) (hstored : StoredReplies store history) :
    ∃ contexts, collectContexts uuid store family model target history = .ok contexts ∧
      contexts.map OpaqueReasoningContext.state =
        store.carriedStates family model target.modelRouteId history ∧
      ∀ context ∈ contexts, BoundTo family model target.modelRouteId history context := by
  induction history with
  | nil => exact ⟨[], rfl, rfl, fun context h => (not_mem_nil h).elim⟩
  | cons message history ih =>
    obtain ⟨hfirst, hstored⟩ := forall_mem_cons.mp hstored
    obtain ⟨contexts, hctxs, hstates, hbd⟩ := messageContexts_ok hr hfirst
    obtain ⟨rest, hrest, hrestStates, hrestBd⟩ := ih hstored
    refine ⟨contexts ++ rest, ?_, ?_, ?_⟩
    · rw [collectContexts, hctxs, ok_bind, hrest, ok_bind]
      rfl
    · rw [map_append, hstates, hrestStates]
      rfl
    · intro context hctx
      rcases mem_append.mp hctx with hctx | hctx
      · exact (hbd context hctx).mono (by simp)
      · exact (hrestBd context hctx).mono fun other hoth => mem_cons_of_mem _ hoth

/-- **Loading.** Over a reachable store it fails for no reason but the limits, which are on the
    states of the whole history together. -/
theorem loadOpaqueReasoningContext_isOk_iff (hr : Retentive X store)
    (hstored : StoredReplies store history) :
    (∃ contexts, loadOpaqueReasoningContext X uuid store family model target history =
        .ok contexts) ↔
      WithinReasoningLimits X.sizes
        (store.carriedStates family model target.modelRouteId history) := by
  obtain ⟨contexts, hctxs, hstates, _⟩ := collectContexts_ok hr hstored
  rw [loadOpaqueReasoningContext, hctxs, ok_bind, hstates]
  constructor
  · rintro ⟨_, hload⟩
    obtain ⟨_, hval, _⟩ := bind_ok.mp hload
    exact validateOpaqueReasoningStates_ok.mp (mapError_ok.mp hval)
  · intro hlims
    exact ⟨contexts, bind_ok.mpr
      ⟨(), mapError_ok.mpr (validateOpaqueReasoningStates_ok.mpr hlims), rfl⟩⟩

/-- What loading gives: the states of the history, each bound to its reply and to the target. -/
theorem loadOpaqueReasoningContext_spec (hr : Retentive X store)
    (hstored : StoredReplies store history)
    (hload : loadOpaqueReasoningContext X uuid store family model target history = .ok contexts) :
    contexts.map OpaqueReasoningContext.state =
        store.carriedStates family model target.modelRouteId history ∧
      (∀ context ∈ contexts, BoundTo family model target.modelRouteId history context) ∧
      WithinReasoningLimits X.sizes (contexts.map OpaqueReasoningContext.state) := by
  obtain ⟨collected, hcoll, hstates, hbd⟩ := collectContexts_ok hr hstored
  rw [loadOpaqueReasoningContext, hcoll, ok_bind] at hload
  obtain ⟨_, hval, rfl⟩ := last_step hload
  exact ⟨hstates, hbd, validateOpaqueReasoningStates_ok.mp (mapError_ok.mp hval)⟩

end Loading

end LorePia.Conversations
