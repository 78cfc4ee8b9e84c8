import LorePia.Domain.Reasoning
import LorePia.Lib.SortedMap
import LorePia.Providers.Stream
import Mathlib.Data.Finset.Card

namespace LorePia.Providers.Anthropic

open Lib Providers After ProviderEvent SortedMap

/-!
# Providers — Anthropic's Messages API

A response is a message of content blocks.  Blocks are numbered from zero and do not overlap: a
block is started, filled by deltas and stopped before the next one.  A tool use is one block.
`Deserialize` of an event is derived; its decoder is a parameter.
-/

variable {active : ActiveContentBlock}

def maxSseEventBytes : Nat := 1024 * 1024
def maxStreamBytes : Nat := 64 * 1024 * 1024
def maxContentBlocks : Nat := 128

structure OutputTokensDetails where
  thinkingTokens : Option Nat

structure CacheCreationDetails where
  ephemeral5mInputTokens : Option Nat
  ephemeral1hInputTokens : Option Nat

structure StreamUsage where
  inputTokens : Option Nat
  cacheCreationInputTokens : Option Nat
  cacheReadInputTokens : Option Nat
  outputTokens : Option Nat
  outputTokensDetails : Option OutputTokensDetails
  cacheCreation : Option CacheCreationDetails

structure MessageStart where
  role : Option String
  content : Option (List Json)
  usage : Option StreamUsage

inductive ContentDelta
  | text (text : String)
  | thinking (thinking : String)
  | inputJson (partialJson : String)
  | signature (signature : String)
  | other

inductive ContentBlock
  | text (text : String)
  | thinking (thinking : String) (signature : Option String)
  | toolUse (id name : String) (input : Json)
  | redactedThinking (data : String)
  | other

/-- The `delta` of a message delta is decoded and not looked at. -/
inductive StreamEvent
  | messageStart (message : MessageStart)
  | contentBlockDelta (index : Nat) (delta : ContentDelta)
  | contentBlockStart (index : Nat) (contentBlock : ContentBlock)
  | contentBlockStop (index : Nat)
  | messageDelta (usage : Option StreamUsage)
  | messageStop
  | error (kind : String)
  | other

inductive ActiveContentBlock
  | text (text : String)
  | thinking (thinking signature : String) (signatureSeen : Bool)
  | redactedThinking (data : OpaqueReasoningData)
  | toolUse (id : ToolCallId) (name : ToolName) (inputJson : String)

structure StreamState where
  started : Bool
  messageDeltaSeen : Bool
  activeBlocks : SortedMap Nat ActiveContentBlock
  completedBlocks : SortedMap Nat AnthropicContentBlock
  seenBlocks : Finset Nat
  toolCallIds : Finset ToolCallId
  usage : GenerationUsage

def StreamState.default : StreamState := ⟨false, false, .empty, .empty, ∅, ∅, .default⟩

section Processing

variable (X : ProviderExternals) (decodeEvent : String → Option StreamEvent)

/-! ### Usage -/

def mergeCumulativeUsage (current next : Option Nat) : CoreResult (Option Nat) :=
  match next with
  | none => .ok current
  | some next => do
    require (∀ value ∈ current, value ≤ next)
      (streamingError X.uuid "provider returned decreasing cumulative usage")
    return some next

/-- The counters that have no field of their own. -/
def rawUsageCounters (streamUsage : StreamUsage) : List (String × Option Nat) :=
  [("cache_creation.ephemeral_5m_input_tokens",
      streamUsage.cacheCreation.bind CacheCreationDetails.ephemeral5mInputTokens),
    ("cache_creation.ephemeral_1h_input_tokens",
      streamUsage.cacheCreation.bind CacheCreationDetails.ephemeral1hInputTokens)]

def parseSummary : Option BoundedJson → CoreResult (Option Json)
  | none => .ok none
  | some summary => do
    let value ← okOr (X.parseJson (asBytes summary.val))
      (streamingError X.uuid "provider returned invalid cumulative usage state")
    return some value

def validateRawUsageCounters (streamUsage : StreamUsage) (current : Option BoundedJson) :
    CoreResult Unit := do
  let current ← parseSummary X current
  forEach (fun counter =>
      require (∀ previous ∈ (current.bind fun summary => summary.get? counter.1).bind Json.asU64?,
          ∀ next ∈ counter.2, previous ≤ next)
        (streamingError X.uuid "provider returned decreasing cumulative usage"))
    (rawUsageCounters streamUsage)

def updateUsage (streamUsage : Option StreamUsage) (usage : GenerationUsage) :
    CoreResult GenerationUsage :=
  match streamUsage with
  | none => .ok usage
  | some stream => do
    let inputTokens ← mergeCumulativeUsage X usage.inputTokens stream.inputTokens
    let cachedReadTokens ←
      mergeCumulativeUsage X usage.cachedReadTokens stream.cacheReadInputTokens
    let cachedWriteTokens ←
      mergeCumulativeUsage X usage.cachedWriteTokens stream.cacheCreationInputTokens
    let outputTokens ← mergeCumulativeUsage X usage.outputTokens stream.outputTokens
    let reasoningTokens ← mergeCumulativeUsage X usage.reasoningTokens
      (stream.outputTokensDetails.bind OutputTokensDetails.thinkingTokens)
    validateRawUsageCounters X stream usage.providerRawSummary
    let providerRawSummary :=
      mergeUsageSummary X usage.providerRawSummary (rawUsageCounters stream)
    return { usage with
      inputTokens, cachedReadTokens, cachedWriteTokens, outputTokens, reasoningTokens,
      providerRawSummary }

/-! ### Blocks -/

def ensureNoActiveBlocks (s : StreamState) : CoreResult Unit :=
  require (s.activeBlocks.entries = [])
    (streamingError X.uuid "provider ended before completing every content block")

def ensureReasoningPrefix (s : StreamState) : CoreResult Unit :=
  require (s.completedBlocks.values.any AnthropicContentBlock.isText = false)
    (streamingError X.uuid "provider returned Anthropic reasoning after a visible content block")

def validateBlockText (value : String) : CoreResult Unit :=
  require (byteLen value ≤ maxOpaqueReasoningTotalBytes ∧
      charCount value ≤ maxAnthropicBlockTextChars)
    (streamingError X.uuid "provider Anthropic text block exceeded its safety limit")

def appendBlockText (target fragment : String) : CoreResult String := do
  let bytes ← okOr (checkedAdd (byteLen target) (byteLen fragment))
    (streamingError X.uuid "provider Anthropic text block size overflowed")
  let chars ← okOr (checkedAdd (charCount target) (charCount fragment))
    (streamingError X.uuid "provider Anthropic text block size overflowed")
  require (bytes ≤ maxOpaqueReasoningTotalBytes ∧ chars ≤ maxAnthropicBlockTextChars)
    (streamingError X.uuid "provider Anthropic text block exceeded its safety limit")
  return target ++ fragment

/-- Append within the limit of one opaque item. -/
def appendItemFragment (message target fragment : String) : CoreResult String := do
  require (byteLen target + byteLen fragment ≤ maxOpaqueReasoningItemBytes)
    (streamingError X.uuid message)
  return target ++ fragment

def appendPrivateFragment : String → String → CoreResult String :=
  appendItemFragment X "provider Anthropic opaque block exceeded its safety limit"

def appendToolInputFragment : String → String → CoreResult String :=
  appendItemFragment X "provider Anthropic tool input exceeded its safety limit"

def registerContentBlockIndex (index : Nat) (s : StreamState) : CoreResult StreamState := do
  require (s.messageDeltaSeen = false)
    (streamingError X.uuid "provider returned a content block after message_delta")
  require (s.activeBlocks.entries = [])
    (streamingError X.uuid "provider started overlapping Anthropic content blocks")
  require (s.seenBlocks.card < maxContentBlocks)
    (streamingError X.uuid "provider exceeded the 128 content-block limit")
  require (index = s.seenBlocks.card ∧ index ∉ s.seenBlocks)
    (streamingError X.uuid "provider returned a non-contiguous Anthropic content-block index")
  return { s with seenBlocks := insert index s.seenBlocks }

/-- A tool use begins. -/
def startToolUse (id name : String) (input : Json) (s : StreamState) :
    Response (StreamState × ActiveContentBlock) := do
  require (∃ fields ∈ input.asObject?, fields = [])
    (streamingError X.uuid "Anthropic tool block must begin with an empty input object")
  let id ← (ToolCallId.parse id).mapError fun _ =>
    streamingError X.uuid "provider returned an invalid tool-call id"
  require (id ∉ s.toolCallIds) (streamingError X.uuid "provider reused an Anthropic tool-call id")
  let name ← (ToolName.parse name).mapError fun _ =>
    streamingError X.uuid "provider returned an invalid tool name"
  .send (.toolCallStarted id name)
  return ({ s with toolCallIds := insert id s.toolCallIds }, .toolUse id name "")

/-- The other kinds of blocks. -/
def startSilentBlock (block : ContentBlock) (s : StreamState) :
    CoreResult ActiveContentBlock :=
  match block with
  | .text text => do
    require (text = "") (streamingError X.uuid "provider returned a non-empty text block start")
    validateBlockText X text
    return .text text
  | .thinking thinking signature => do
    ensureReasoningPrefix X s
    require (thinking = "")
      (streamingError X.uuid "provider returned a non-empty thinking block start")
    validateBlockText X thinking
    require (signature = some "")
      (streamingError X.uuid "provider returned an invalid thinking block start")
    return .thinking thinking "" false
  | .redactedThinking data => do
    ensureReasoningPrefix X s
    let data ← (OpaqueReasoningData.parse data).mapError fun _ =>
      streamingError X.uuid "provider returned invalid redacted thinking data"
    return .redactedThinking data
  | _ => .error (streamingError X.uuid "provider returned an unsupported content block")

def startContentBlock (index : Nat) (block : ContentBlock) (s : StreamState) :
    Response StreamState := do
  let s ← registerContentBlockIndex X index s
  match block with
  | .toolUse id name input =>
    let (s, active) ← startToolUse X id name input s
    return { s with activeBlocks := s.activeBlocks.insert index active }
  | block =>
    let active ← startSilentBlock X block s
    return { s with activeBlocks := s.activeBlocks.insert index active }

/-- The block with one more delta, and the event the delta causes. -/
def applyDelta (active : ActiveContentBlock) (delta : ContentDelta) :
    CoreResult (ActiveContentBlock × Option ProviderEvent) :=
  match active, delta with
  | .text accumulated, .text text => do
    let total ← appendBlockText X accumulated text
    return (.text total, if text = "" then none else some (.textDelta text))
  | .thinking accumulated signature signatureSeen, .thinking thinking => do
    require (signatureSeen = false)
      (streamingError X.uuid "provider returned thinking data after its signature")
    let total ← appendBlockText X accumulated thinking
    return (.thinking total signature signatureSeen,
      if thinking = "" then none else some (.reasoningDelta thinking))
  | .thinking thinking accumulated signatureSeen, .signature signature => do
    require (signatureSeen = false ∧ signature ≠ "")
      (streamingError X.uuid "provider returned an invalid thinking signature sequence")
    let total ← appendPrivateFragment X accumulated signature
    return (.thinking thinking total true, none)
  | .toolUse id name accumulated, .inputJson partialJson => do
    let total ← appendToolInputFragment X accumulated partialJson
    if partialJson = "" then return (.toolUse id name total, none)
    else do
      let fragment ← (ToolCallArgumentsDelta.parse partialJson).mapError fun _ =>
        streamingError X.uuid "provider returned invalid tool-call argument data"
      return (.toolUse id name total, some (.toolCallArgumentsDelta id fragment))
  | _, .other => .error (streamingError X.uuid "provider returned an unsupported content delta")
  | _, _ => .error (streamingError X.uuid "provider content delta did not match its active block")

def sendSome : Option ProviderEvent → Response Unit
  | none => return
  | some event => .send event

def processContentDelta (index : Nat) (delta : ContentDelta) (s : StreamState) :
    Response StreamState := do
  let active ← okOr (s.activeBlocks.get? index)
    (streamingError X.uuid "provider returned a delta outside an active content block")
  let (active, event) ← applyDelta X active delta
  sendSome event
  return { s with activeBlocks := s.activeBlocks.insert index active }

/-- A finished block, and the call it completes. -/
def sealBlock : ActiveContentBlock →
    CoreResult (AnthropicContentBlock × Option ToolCallId)
  | .text text => do
    let text ← (anthropicBlockTextParse text).mapError fun _ =>
      streamingError X.uuid "provider returned invalid text block"
    return (.text text, none)
  | .thinking thinking signature _ => do
    let thinking ← (anthropicBlockTextParse thinking).mapError fun _ =>
      streamingError X.uuid "provider returned invalid thinking block"
    let signature ← (OpaqueReasoningData.parse signature).mapError fun _ =>
      streamingError X.uuid "provider returned invalid thinking signature"
    return (.thinking thinking signature, none)
  | .redactedThinking data => return (.redactedThinking data, none)
  | .toolUse id name inputJson => do
    let invalid := streamingError X.uuid "provider returned invalid tool-call arguments"
    let value ← okOr
      (X.parseJson (asBytes (if inputJson = "" then "\x7b\x7d" else inputJson))) invalid
    let input ← (anthropicToolInputFromValue X.printJson value).mapError fun _ => invalid
    return (.toolUse id name input, some id)

def finishContentBlock (index : Nat) (s : StreamState) : Response StreamState := do
  let active ← okOr (s.activeBlocks.get? index)
    (streamingError X.uuid "provider stopped a content block that was not active")
  let (block, completed) ← sealBlock X active
  require (s.completedBlocks.get? index = none)
    (streamingError X.uuid "provider reused an Anthropic content-block index")
  sendSome (completed.map ProviderEvent.toolCallCompleted)
  return { s with
    activeBlocks := s.activeBlocks.erase index
    completedBlocks := s.completedBlocks.insert index block }

/-- `emit_anthropic_topology`: the blocks are retained if there is reasoning among them. -/
def emitAnthropicTopology (preserve : Bool) (s : StreamState) : Response Unit := do
  require (s.completedBlocks.entries.length = s.seenBlocks.card)
    (streamingError X.uuid "provider ended before completing every content block")
  if s.completedBlocks.values.any AnthropicContentBlock.isReasoning = false ∨ preserve = false then
    return
  else do
    require (s.completedBlocks.values.any AnthropicContentBlock.isToolUse = false)
      (streamingError X.uuid
        "provider returned an Anthropic tool-use topology without exact tool results")
    let topology ← (anthropicContentBlockTopologyNew X.sizes s.completedBlocks.values).mapError
      fun _ => streamingError X.uuid "provider returned an invalid Anthropic content topology"
    .send (.opaqueReasoningState (.anthropicMessages topology))

/-! ### Events -/

def ensureStarted (s : StreamState) : CoreResult Unit :=
  require (s.started = true)
    (streamingError X.uuid "provider returned streaming data before message_start")

/-- `stream_error`. -/
def streamError (kind : String) : CoreError :=
  if kind = "invalid_request_error" ∨ kind = "request_too_large" then
    .new X.uuid .invalidInput "provider rejected the streaming request" false
  else if kind = "authentication_error" ∨ kind = "permission_error" then
    .new X.uuid .providerAuthFailed "provider returned a streaming authentication error" false
  else if kind = "rate_limit_error" then
    .new X.uuid .providerRateLimited "provider returned a streaming rate-limit error" true
  else if kind = "overloaded_error" ∨ kind = "api_error" ∨ kind = "timeout_error" then
    .new X.uuid .providerUnavailable "provider returned a transient streaming error" true
  else .new X.uuid .providerUnavailable "provider returned a streaming error" false

def startMessage (message : MessageStart) (s : StreamState) : CoreResult StreamState := do
  require (s.started = false)
    (streamingError X.uuid "provider returned a duplicate message_start event")
  require (message.role = some "assistant" ∧ message.content = some [])
    (streamingError X.uuid "provider returned an invalid Anthropic message_start")
  let usage ← updateUsage X message.usage s.usage
  return { s with started := true, usage }

def applyMessageDelta (streamUsage : Option StreamUsage) (s : StreamState) :
    CoreResult StreamState := do
  ensureStarted X s
  ensureNoActiveBlocks X s
  let usage ← updateUsage X streamUsage s.usage
  return { s with messageDeltaSeen := true, usage }

def stopMessage (preserve : Bool) (s : StreamState) : Response Unit := do
  ensureStarted X s
  ensureNoActiveBlocks X s
  require (s.messageDeltaSeen = true)
    (streamingError X.uuid "provider returned message_stop before message_delta")
  emitAnthropicTopology X preserve s

/-- `match event` of `process_event`. -/
def dispatchEvent (preserve : Bool) (s : StreamState) :
    StreamEvent → Response (StreamState × EventAction)
  | .messageStart message => do
    let s ← startMessage X message s
    return (s, .continue)
  | .contentBlockStart index block => do
    ensureStarted X s
    let s ← startContentBlock X index block s
    return (s, .continue)
  | .contentBlockDelta index delta => do
    ensureStarted X s
    let s ← processContentDelta X index delta s
    return (s, .continue)
  | .contentBlockStop index => do
    ensureStarted X s
    let s ← finishContentBlock X index s
    return (s, .continue)
  | .messageDelta usage => do
    let s ← applyMessageDelta X usage s
    return (s, .continue)
  | .messageStop => do
    stopMessage X preserve s
    return (s, .done)
  | .error kind => .fail (streamError X kind)
  | .other => return (s, .continue)

/-- The payload of an event, which is parsed untrimmed. -/
def payloadOf (event : Bytes) : CoreResult (Option String) := do
  let text ← okOr (fromUtf8 event)
    (streamingError X.uuid "provider returned malformed streaming data")
  return (dataOf text).bind fun data => if trim data = "" then none else some data

/-- `process_event`. -/
def processEvent (preserve : Bool) (event : Bytes) (s : StreamState) :
    Response (StreamState × EventAction) := do
  match ← payloadOf X event with
  | none => return (s, .continue)
  | some data =>
    let event ← okOr (decodeEvent data)
      (streamingError X.uuid "provider returned malformed streaming data")
    dispatchEvent X preserve s event

def networkError : NetworkFailure → CoreError
  | .timedOut => .new X.uuid .providerUnavailable "provider request timed out" true
  | _ => .new X.uuid .networkUnavailable "provider request failed" true

/-- `StreamState::incomplete_error`. -/
def incompleteError (s : StreamState) : CoreError :=
  if s.started then streamingError X.uuid "provider stream ended before message_stop"
  else streamingError X.uuid "provider returned an empty streaming response"

def reader (preserve : Bool) : SseReader StreamState where
  maxEventBytes := maxSseEventBytes
  maxStreamBytes := maxStreamBytes
  eventTooLarge := streamingError X.uuid "provider streaming event exceeded 1 MiB"
  streamTooLarge := streamingError X.uuid "provider stream exceeded 64 MiB"
  incompleteEvent := streamingError X.uuid "provider stream ended with an incomplete event"
  networkError := networkError X
  process := processEvent X decodeEvent preserve
  usage := StreamState.usage
  finish s := .error (incompleteError X s)

/-- The read loop of `generate`. -/
def consumeStream (preserve : Bool) (arrivals : List Arrival) : Response GenerationUsage :=
  (reader X decodeEvent preserve).consume arrivals 0 [] .default

end Processing

/-! ### The calls of a response -/

section Calls

variable {decodeEvent : String → Option StreamEvent} {log : List ProviderEvent} {s : StreamState}
  {index : Nat}

/-- The call that a block is. -/
def callOf : ActiveContentBlock → Set ToolCallId
  | .toolUse id _ _ => {id}
  | _ => ∅

/-- At most one block is active; if it is a tool use, its call is the one that is open. -/
inductive Tracks (log : List ProviderEvent) (s : StreamState) : Prop
  | idle (hblocks : s.activeBlocks.entries = [])
      (hledger : Ledger ProviderEvent.call? log ∅ (s.toolCallIds : Set ToolCallId))
  | filling (index : Nat) (block : ActiveContentBlock)
      (hblocks : s.activeBlocks.entries = [(index, block)])
      (hledger : Ledger ProviderEvent.call? log (callOf block) (s.toolCallIds : Set ToolCallId))

theorem Tracks.ledger_of_idle (h : Tracks log s) (hblocks : s.activeBlocks.entries = []) :
    Ledger call? log ∅ (s.toolCallIds : Set ToolCallId) := by
  cases h with
  | idle _ hledger => exact hledger
  | filling index block hfilled _ =>
    rw [hblocks] at hfilled
    cases hfilled

/-- The block an event is about is the active one. -/
theorem Tracks.of_get? (h : Tracks log s) (hget : s.activeBlocks.get? index = some block) :
    s.activeBlocks.entries = [(index, block)] ∧
      Ledger call? log (callOf block) (s.toolCallIds : Set ToolCallId) := by
  have hmem := get?_eq_some.mp hget
  cases h with
  | idle hblocks _ =>
    rw [hblocks] at hmem
    cases hmem
  | filling other block' hblocks hledger =>
    rw [hblocks, List.mem_singleton] at hmem
    cases hmem
    exact ⟨hblocks, hledger⟩

/-- Fields that the calls do not depend on may change. -/
theorem Tracks.congr (h : Tracks log s) (hblocks : s'.activeBlocks = s.activeBlocks)
    (hids : s'.toolCallIds = s.toolCallIds) : Tracks log s' := by
  cases h with
  | idle hidle hledger => exact .idle (hblocks ▸ hidle) (hids ▸ hledger)
  | filling index block hfilled hledger =>
    exact .filling index block (hblocks ▸ hfilled) (hids ▸ hledger)

theorem entries_insert_nil {ρ : Type} {m : SortedMap Nat ρ} {v : ρ}
    (h : m.entries = []) : (m.insert k v).entries = [(k, v)] := by
  simp [SortedMap.insert, h]

theorem entries_insert_singleton {ρ : Type} {m : SortedMap Nat ρ} {v w : ρ}
    (h : m.entries = [(k, w)]) : (m.insert k v).entries = [(k, v)] := by
  simp [SortedMap.insert, h]

theorem entries_erase_singleton {ρ : Type} {m : SortedMap Nat ρ} {w : ρ}
    (h : m.entries = [(k, w)]) : (m.erase k).entries = [] := by
  simp [erase, h]

theorem registerContentBlockIndex_ok (h : registerContentBlockIndex X index s = .ok s') :
    s.activeBlocks.entries = [] ∧ s'.activeBlocks = s.activeBlocks ∧
      s'.toolCallIds = s.toolCallIds := by
  obtain ⟨_, hidle, h⟩ := guards₂ h
  obtain ⟨_, _, h⟩ := rest₂ h
  cases h
  exact ⟨hidle, rfl, rfl⟩

theorem startSilentBlock_ok (h : startSilentBlock X block s = .ok active) : callOf active = ∅ := by
  cases block with
  | text text =>
    obtain ⟨_, _, h⟩ := rest₂ h
    cases h
    rfl
  | thinking thinking signature =>
    obtain ⟨_, _, h⟩ := rest₂ h
    obtain ⟨_, _, h⟩ := rest₂ h
    cases h
    rfl
  | redactedThinking data =>
    obtain ⟨_, _, h⟩ := rest₂ h
    cases h
    rfl
  | toolUse id name input => cases h
  | other => cases h

theorem startToolUse_after {id name : String}
    (hledger : Ledger call? log ∅ (s.toolCallIds : Set ToolCallId)) :
    After log (startToolUse X id name input s) fun log' out =>
      out.1.activeBlocks = s.activeBlocks ∧
        Ledger call? log' (callOf out.2) (out.1.toolCallIds : Set ToolCallId) := by
  refine require_bind fun _ => lift_bind fun id _ => require_bind fun hnew =>
    lift_bind fun name _ => send_bind (after_pure ⟨rfl, ?_⟩)
  show Ledger call? _ {id} ((insert id s.toolCallIds : Finset ToolCallId) : Set ToolCallId)
  rw [Finset.coe_insert, ← insert_empty_eq]
  exact hledger.start rfl (by simpa using hnew)

/-- A block begins. -/
theorem startContentBlock_after (block : ContentBlock) (h : Tracks log s) :
    After log (startContentBlock X index block s) Tracks := by
  refine lift_bind fun s₁ hs₁ => ?_
  obtain ⟨hidle, hblocks, hids⟩ := registerContentBlockIndex_ok hs₁
  have hledger := h.ledger_of_idle hidle
  rw [← hids] at hledger
  rw [← hblocks] at hidle
  split
  · refine (startToolUse_after hledger).bind fun log' out hout => after_pure ?_
    obtain ⟨hsame, hledger'⟩ := hout
    exact .filling index out.2 (entries_insert_nil (hsame ▸ hidle)) hledger'
  · refine lift_bind fun active hactv => after_pure ?_
    refine .filling index active (entries_insert_nil hidle) ?_
    rw [startSilentBlock_ok hactv]
    exact hledger

/-- A delta leaves the call of its block, and speaks of no other. -/
theorem applyDelta_ok (h : applyDelta X active delta = .ok out) :
    callOf out.1 = callOf active ∧
      ∀ event ∈ out.2, event.call? = none ∨ ∃ id ∈ callOf active, event.call? = some (id, .within) := by
  unfold applyDelta at h
  split at h
  case h_1 =>
    obtain ⟨_, _, h⟩ := bind_ok.mp h
    cases h
    refine ⟨rfl, fun event hev => .inl ?_⟩
    split at hev
    · cases hev
    · cases hev
      rfl
  case h_2 =>
    obtain ⟨_, _, h⟩ := rest₂ h
    cases h
    refine ⟨rfl, fun event hev => .inl ?_⟩
    split at hev
    · cases hev
    · cases hev
      rfl
  case h_3 =>
    obtain ⟨_, _, h⟩ := rest₂ h
    cases h
    exact ⟨rfl, fun event hev => (nomatch hev)⟩
  case h_4 id name accumulated partialJson =>
    obtain ⟨_, _, h⟩ := bind_ok.mp h
    split at h
    · cases h
      exact ⟨rfl, fun event hev => (nomatch hev)⟩
    · obtain ⟨fragment, _, h⟩ := bind_ok.mp h
      cases h
      refine ⟨rfl, fun event hev => .inr ⟨id, rfl, ?_⟩⟩
      cases hev
      rfl
  case h_5 => cases h
  case h_6 => cases h

/-- A delta arrives. -/
theorem processContentDelta_after (delta : ContentDelta) (h : Tracks log s) :
    After log (processContentDelta X index delta s) Tracks := by
  refine lift_bind fun active hactv => lift_bind fun out hout => ?_
  obtain ⟨hblocks, hledger⟩ := h.of_get? (okOr_ok.mp hactv)
  obtain ⟨hcall, hev⟩ := applyDelta_ok hout
  obtain ⟨active', event⟩ := out
  refine .bind (Q := fun log' _ => Ledger call? log' (callOf active')
    (s.toolCallIds : Set ToolCallId)) ?_ fun log' _ hledger' => after_pure ?_
  · rw [hcall]
    cases event with
    | none => exact after_pure hledger
    | some event =>
      refine after_send ?_
      rcases hev event rfl with hnone | ⟨id, hid, hview⟩
      · exact hledger.skip hnone
      · exact hledger.inside hview hid
  · exact .filling index active' (entries_insert_singleton hblocks) hledger'

/-- A finished block completes the call it was. -/
theorem sealBlock_ok (h : sealBlock X active = .ok out) :
    callOf active = {id | id ∈ out.2} := by
  cases active with
  | text text =>
    obtain ⟨_, _, h⟩ := bind_ok.mp h
    cases h
    simp [callOf]
  | thinking thinking signature seen =>
    obtain ⟨_, _, h⟩ := rest₂ h
    cases h
    simp [callOf]
  | redactedThinking data =>
    cases h
    simp [callOf]
  | toolUse id name inputJson =>
    obtain ⟨_, _, h⟩ := rest₂ h
    cases h
    ext other
    simp [callOf, eq_comm]

/-- A block ends. -/
theorem finishContentBlock_after (h : Tracks log s) :
    After log (finishContentBlock X index s) Tracks := by
  refine lift_bind fun active hactv => lift_bind fun out hout => require_bind fun _ => ?_
  obtain ⟨hblocks, hledger⟩ := h.of_get? (okOr_ok.mp hactv)
  rw [sealBlock_ok hout] at hledger
  obtain ⟨block, completed⟩ := out
  refine .bind (Q := fun log' _ => Ledger call? log' ∅
    (s.toolCallIds : Set ToolCallId)) ?_ fun log' _ hledger' => after_pure ?_
  · cases completed with
    | none =>
      refine after_pure ?_
      have hnone : {id : ToolCallId | id ∈ (none : Option ToolCallId)} = ∅ := by simp
      rw [← hnone]
      exact hledger
    | some id =>
      refine after_send ?_
      have hone : {id' : ToolCallId | id' ∈ some id} = {id} := by
        ext other
        simp [eq_comm]
      have hledger : Ledger call? log {id} (s.toolCallIds : Set ToolCallId) := hone ▸ hledger
      have hclosed : Ledger call? (log ++ [.toolCallCompleted id]) ({id} \ {id})
          (s.toolCallIds : Set ToolCallId) := hledger.finish rfl rfl
      rw [sdiff_self] at hclosed
      exact hclosed
  · exact .idle (entries_erase_singleton hblocks) hledger'

theorem stopMessage_after (h : Tracks log s) :
    After log (stopMessage X preserve s) fun log' _ =>
      Ledger call? log' ∅ (s.toolCallIds : Set ToolCallId) := by
  refine lift_bind fun _ _ => lift_bind fun _ hidle => require_bind fun _ => ?_
  have hledger := h.ledger_of_idle (require_ok.mp hidle)
  refine require_bind fun _ => .ite (fun _ => after_pure hledger) fun _ => ?_
  refine require_bind fun _ => lift_bind fun topology _ => after_send ?_
  exact hledger.skip rfl

theorem startMessage_ok (h : startMessage X message s = .ok s') :
    s'.activeBlocks = s.activeBlocks ∧ s'.toolCallIds = s.toolCallIds := by
  obtain ⟨_, _, _, h⟩ := rest₃ h
  cases h
  exact ⟨rfl, rfl⟩

theorem applyMessageDelta_ok (h : applyMessageDelta X usage s = .ok s') :
    s'.activeBlocks = s.activeBlocks ∧ s'.toolCallIds = s.toolCallIds := by
  obtain ⟨_, _, _, h⟩ := rest₃ h
  cases h
  exact ⟨rfl, rfl⟩

/-- What holds once `message_stop` is processed. -/
def Stopped (log : List ProviderEvent) (s : StreamState) : Prop :=
  Ledger ProviderEvent.call? log ∅ (s.toolCallIds : Set ToolCallId)

/-- **One event.** -/
theorem dispatchEvent_after (event : StreamEvent) (h : Tracks log s) :
    After log (dispatchEvent X preserve s event) fun log' out =>
      match out.2 with
      | .continue => Tracks log' out.1
      | .done => Stopped log' out.1 := by
  cases event with
  | messageStart message =>
    refine lift_bind fun s' hs' => after_pure ?_
    obtain ⟨hblocks, hids⟩ := startMessage_ok hs'
    exact h.congr hblocks hids
  | contentBlockStart index block =>
    refine lift_bind fun _ _ => (startContentBlock_after block h).bind ?_
    exact fun _ _ h' => after_pure h'
  | contentBlockDelta index delta =>
    refine lift_bind fun _ _ => (processContentDelta_after delta h).bind ?_
    exact fun _ _ h' => after_pure h'
  | contentBlockStop index =>
    refine lift_bind fun _ _ => (finishContentBlock_after h).bind ?_
    exact fun _ _ h' => after_pure h'
  | messageDelta usage =>
    refine lift_bind fun s' hs' => after_pure ?_
    obtain ⟨hblocks, hids⟩ := applyMessageDelta_ok hs'
    exact h.congr hblocks hids
  | messageStop => exact (stopMessage_after h).bind fun _ _ h' => after_pure h'
  | error kind => exact after_fail
  | other => exact after_pure h

theorem processEvent_keeps :
    (reader X decodeEvent preserve).Keeps (fun log _ s => Tracks log s)
      (fun log _ s => Stopped log s) := by
  intro log frames s event h
  show After log (processEvent X decodeEvent preserve event s) _
  refine lift_bind fun payload _ => ?_
  cases payload with
  | none => exact after_pure h
  | some data => exact lift_bind fun event _ => dispatchEvent_after event h

/-- **The Anthropic adapter.** -/
theorem consumeStream_wellBracketed
    (h : (consumeStream X decodeEvent preserve arrivals).result = .ok usage) :
    WellBracketed call? (consumeStream X decodeEvent preserve arrivals).sent := by
  have hledger : Ledger call? [] ∅ ((∅ : Finset ToolCallId) : Set ToolCallId) := by
    rw [Finset.coe_empty]
    exact Ledger.nil
  have hstart : Tracks [] .default := .idle rfl hledger
  rcases SseReader.consume_run processEvent_keeps hstart h with
    ⟨_, _, s, _, hstopped, _⟩ | ⟨s, _, hfinish⟩
  · exact Ledger.wellBracketed hstopped
  · cases hfinish

end Calls

end LorePia.Providers.Anthropic
