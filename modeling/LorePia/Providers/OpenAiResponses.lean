import LorePia.Lib.SortedMap
import LorePia.Providers.Stream

namespace LorePia.Providers.OpenAiResponses

open Lib Providers List After ProviderEvent SortedMap ToolCallId

/-!
# Providers — the OpenAI Responses API

`process_event` and the loop around it.  The tracker keeps the calls of a response under the
identifiers of their output items; the identifier a call is announced with is the `call_id` of
the item, and the tracker does not compare it with that of other items.

`Deserialize` of the completion event is derived; its decoder is a parameter.
-/

variable {log' : List ProviderEvent} {id : ToolCallId} {event : Bytes} {name : ToolName}
  {total : String}

def maxSseEventBytes : Nat := 1024 * 1024
def maxStreamBytes : Nat := 64 * 1024 * 1024
def maxPendingToolArgumentBytes : Nat := 256 * 1024

structure ResponseInputTokensDetails where
  cachedTokens : Option Nat
  cacheWriteTokens : Option Nat

structure ResponseOutputTokensDetails where
  reasoningTokens : Option Nat

structure ResponseUsage where
  inputTokens : Option Nat
  outputTokens : Option Nat
  totalTokens : Option Nat
  inputTokensDetails : Option ResponseInputTokensDetails
  outputTokensDetails : Option ResponseOutputTokensDetails

structure CompletedResponse where
  status : String
  usage : Option ResponseUsage
  error : Option Json

structure ResponsesToolCall where
  id : ToolCallId
  name : ToolName
  arguments : String
  completed : Bool

/-- The usage and the calls, by the identifiers of their items. -/
structure State where
  usage : GenerationUsage
  calls : SortedMap String ResponsesToolCall

def State.default : State := ⟨.default, .empty⟩

/-- The types of an event that `process_event` tells apart. -/
inductive EventKind
  | textDelta
  | reasoningDelta
  | functionCallAdded
  | argumentsDelta
  | argumentsDone
  | completed
  | failed
  | other
deriving DecidableEq

/-- `match event_type`, with the guard of its third arm. -/
def eventKind (eventType : String) (value : Json) : EventKind :=
  if eventType = "response.output_text.delta" ∨ eventType = "response.refusal.delta" then .textDelta
  else if eventType = "response.reasoning_summary_text.delta" then .reasoningDelta
  else if eventType = "response.output_item.added" ∧
      (((value.get? "item").bind fun item => item.get? "type").bind Json.asStr?) =
        some "function_call" then
    .functionCallAdded
  else if eventType = "response.function_call_arguments.delta" then .argumentsDelta
  else if eventType = "response.function_call_arguments.done" then .argumentsDone
  else if eventType = "response.completed" then .completed
  else if eventType = "response.failed" ∨ eventType = "response.incomplete" ∨
      eventType = "response.cancelled" ∨ eventType = "error" then
    .failed
  else .other

section Processing

variable (X : ProviderExternals) (decodeCompleted : Json → Option CompletedResponse)

/-- A field that must be a string. -/
def strField (value : Json) (key message : String) : CoreResult String :=
  okOr ((value.get? key).bind Json.asStr?) (streamingError X.uuid message)

def malformedData : String := "provider returned malformed streaming data"
def malformedToolCall : String := "provider returned malformed tool-call data"
def invalidToolCall : String := "provider returned invalid tool-call data"

/-- `append_tool_arguments`. -/
def appendToolArguments (target fragment : String) : CoreResult String := do
  require (byteLen target + byteLen fragment ≤ maxPendingToolArgumentBytes)
    (streamingError X.uuid "provider tool-call arguments exceeded its safety limit")
  return target ++ fragment

/-- The third arm: a function call is announced. -/
def addFunctionCall (value : Json) (s : State) : Response State := do
  let item ← okOr ((value.get? "item").filter Json.isObject) (streamingError X.uuid malformedToolCall)
  let itemId ← strField X item "id" malformedToolCall
  let callId ← strField X item "call_id" malformedToolCall
  let name ← strField X item "name" malformedToolCall
  let id ← (ToolCallId.parse callId).mapError fun _ => streamingError X.uuid invalidToolCall
  let name ← (ToolName.parse name).mapError fun _ => streamingError X.uuid invalidToolCall
  require (s.calls.get? itemId = none)
    (streamingError X.uuid "provider returned duplicate tool-call data")
  .send (.toolCallStarted id name)
  return { s with calls := s.calls.insert itemId ⟨id, name, "", false⟩ }

/-- Send a fragment of arguments. -/
def sendArguments (id : ToolCallId) (arguments : String) : Response Unit := do
  let delta ← (ToolCallArgumentsDelta.parse arguments).mapError fun _ =>
    streamingError X.uuid invalidToolCall
  .send (.toolCallArgumentsDelta id delta)

def addArguments (value : Json) (s : State) : Response State := do
  let itemId ← strField X value "item_id" malformedToolCall
  let arguments ← strField X value "delta" malformedToolCall
  let call ← okOr ((s.calls.get? itemId).filter fun call => !call.completed)
    (streamingError X.uuid "provider returned unknown tool-call data")
  let total ← appendToolArguments X call.arguments arguments
  .onlyIf (arguments ≠ "") (sendArguments X call.id arguments)
  return { s with calls := s.calls.insert itemId { call with arguments := total } }

/-- The arguments of a call are complete: they are sent now if no fragment came before, and
    must otherwise be what the fragments gave. -/
def settleArguments (call : ResponsesToolCall) (arguments : String) :
    Response ResponsesToolCall :=
  if call.arguments = "" ∧ arguments ≠ "" then do
    let total ← appendToolArguments X call.arguments arguments
    sendArguments X call.id arguments
    return { call with arguments := total }
  else do
    require (call.arguments = arguments)
      (streamingError X.uuid "provider changed completed tool-call arguments")
    return call

def finishArguments (value : Json) (s : State) : Response State := do
  let itemId ← strField X value "item_id" malformedToolCall
  let name ← strField X value "name" malformedToolCall
  let arguments ← strField X value "arguments" malformedToolCall
  let call ← okOr ((s.calls.get? itemId).filter fun call =>
      !call.completed && call.name.val = name)
    (streamingError X.uuid "provider returned unknown tool-call data")
  let call ← settleArguments X call arguments
  .send (.toolCallCompleted call.id)
  return { s with calls := s.calls.insert itemId { call with completed := true } }

/-- `update_usage`. -/
def updateUsage (responseUsage : Option ResponseUsage) (usage : GenerationUsage) :
    GenerationUsage :=
  match responseUsage with
  | none => usage
  | some response =>
    { usage with
      inputTokens := response.inputTokens.or usage.inputTokens
      outputTokens := response.outputTokens.or usage.outputTokens
      cachedReadTokens :=
        (response.inputTokensDetails.bind ResponseInputTokensDetails.cachedTokens).or
          usage.cachedReadTokens
      cachedWriteTokens :=
        (response.inputTokensDetails.bind ResponseInputTokensDetails.cacheWriteTokens).or
          usage.cachedWriteTokens
      reasoningTokens :=
        (response.outputTokensDetails.bind ResponseOutputTokensDetails.reasoningTokens).or
          usage.reasoningTokens
      providerRawSummary :=
        mergeUsageSummary X usage.providerRawSummary [("total_tokens", response.totalTokens)] }

def complete (value : Json) (s : State) : CoreResult State := do
  let response ← okOr (decodeCompleted value) (streamingError X.uuid malformedData)
  require (response.status = "completed" ∧ ∀ error ∈ response.error, error.isNull = true)
    (streamingError X.uuid "provider returned an invalid completion event")
  require (∀ call ∈ s.calls.values, call.completed = true)
    (streamingError X.uuid "provider completed with an unfinished tool call")
  return { s with usage := updateUsage X response.usage s.usage }

/-- The arms of `match event_type`. -/
def processKind (value : Json) (s : State) : EventKind → Response (State × EventAction)
  | .textDelta => do
    let delta ← strField X value "delta" malformedData
    .onlyIf (delta ≠ "") (.send (.textDelta delta))
    return (s, .continue)
  | .reasoningDelta => do
    let delta ← strField X value "delta" malformedData
    .onlyIf (delta ≠ "") (.send (.reasoningDelta delta))
    return (s, .continue)
  | .functionCallAdded => do
    let s ← addFunctionCall X value s
    return (s, .continue)
  | .argumentsDelta => do
    let s ← addArguments X value s
    return (s, .continue)
  | .argumentsDone => do
    let s ← finishArguments X value s
    return (s, .continue)
  | .completed => do
    let s ← complete X decodeCompleted value s
    return (s, .done)
  | .failed => .fail (streamingError X.uuid "provider reported a streaming failure")
  | .other => return (s, .continue)

/-- The payload of an event with its type, or `none` if the event carries no payload. -/
def decodeEvent (event : Bytes) : CoreResult (Option (String × Json)) := do
  match ← eventData X.uuid malformedData event with
  | none => return none
  | some data =>
    require (data ≠ "[DONE]")
      (streamingError X.uuid "provider stream ended before response.completed")
    let value ← okOr (X.parseJson (asBytes data)) (streamingError X.uuid malformedData)
    let eventType ← strField X value "type" malformedData
    return some (eventType, value)

/-- `process_event`. -/
def processEvent (event : Bytes) (s : State) : Response (State × EventAction) := do
  match ← decodeEvent X event with
  | none => return (s, .continue)
  | some (eventType, value) => processKind X decodeCompleted value s (eventKind eventType value)

/-- `network_error`. -/
def networkError : NetworkFailure → CoreError
  | .timedOut => .new X.uuid .providerUnavailable "provider request timed out" true
  | _ => .new X.uuid .networkUnavailable "provider request failed" true

def reader : SseReader State where
  maxEventBytes := maxSseEventBytes
  maxStreamBytes := maxStreamBytes
  eventTooLarge := streamingError X.uuid "provider streaming event exceeded 1 MiB"
  streamTooLarge := streamingError X.uuid "provider stream exceeded 64 MiB"
  incompleteEvent := streamingError X.uuid "provider stream ended with an incomplete event"
  networkError := networkError X
  process := processEvent X decodeCompleted
  usage := State.usage
  finish _ := .error (streamingError X.uuid "provider stream ended before response.completed")

/-- `consume_response_stream`. -/
def consumeResponseStream (arrivals : List Arrival) : Response GenerationUsage :=
  (reader X decodeCompleted).consume arrivals 0 [] .default

/-- The payloads of a stream, one by one. -/
def runPayloads : List Json → State → Response GenerationUsage
  | [], _ => .fail (streamingError X.uuid "provider stream ended before response.completed")
  | value :: values, s => do
    let eventType ← strField X value "type" malformedData
    let (s, action) ← processKind X decodeCompleted value s (eventKind eventType value)
    if action = .done then return s.usage
    runPayloads values s

/-- The identifier of the function call that an event announces. -/
def announcedCallId (event : Bytes) : Option String :=
  match decodeEvent X event with
  | .ok (some (eventType, value)) =>
    if eventKind eventType value = .functionCallAdded then
      ((value.get? "item").bind fun item => item.get? "call_id").bind Json.asStr?
    else none
  | _ => none

/-- The event is `response.completed`. -/
def isCompletion (event : Bytes) : Bool :=
  match decodeEvent X event with
  | .ok (some (eventType, value)) => eventKind eventType value = .completed
  | _ => false

/-- The identifiers of the function calls announced before `response.completed`. -/
def announcedCallIds (arrivals : List Arrival) : List String :=
  ((framesOf arrivals []).takeWhile fun event => !isCompletion X event).filterMap (announcedCallId X)

end Processing

/-! ### What a step does to the calls -/

section Steps

variable {log : List ProviderEvent} {value : Json} {s : State}

theorem strField_ok {key message text : String} :
    strField X value key message = .ok text ↔ (value.get? key).bind Json.asStr? = some text :=
  okOr_ok

theorem processEvent_payload (hline : OneLine payload) (hdone : payload ≠ "[DONE]")
    (hvalue : X.parseJson (asBytes payload) = some value) :
    processEvent X decodeCompleted (asBytes ("data: " ++ payload)) s = (do
      let eventType ← strField X value "type" malformedData
      processKind X decodeCompleted value s (eventKind eventType value)) := by
  have hdec : decodeEvent X (asBytes ("data: " ++ payload)) = (do
      let eventType ← strField X value "type" malformedData
      return some (eventType, value)) := by
    rw [decodeEvent, hline.eventData]
    simp only [ok_bind, require_true hdone, hvalue, okOr]
  rw [processEvent, hdec]
  cases strField X value "type" malformedData with
  | error error => rfl
  | ok eventType => rfl

/-- A stream whose payloads arrive one by one is what its values make of it. -/
theorem consumeResponseStream_payloads {payloads : List (String × Json)}
    (hlines : ∀ payload ∈ payloads, OneLine payload.1 ∧ payload.1 ≠ "[DONE]" ∧
      X.parseJson (asBytes payload.1) = some payload.2)
    (hevs : ∀ payload ∈ payloads, (frame payload.1).length ≤ maxSseEventBytes)
    (htotal : (payloads.flatMap fun payload => frame payload.1).length ≤ maxStreamBytes) :
    consumeResponseStream X decodeCompleted (payloads.map fun payload => .ok (frame payload.1)) =
      runPayloads X decodeCompleted (payloads.map Prod.snd) .default := by
  have hrun (s : State) : (reader X decodeCompleted).runEvents
        (payloads.map fun payload => asBytes ("data: " ++ payload.1)) s =
      runPayloads X decodeCompleted (payloads.map Prod.snd) s := by
    induction payloads generalizing s with
    | nil => rfl
    | cons payload payloads ih =>
      rw [forall_mem_cons] at hlines hevs
      rw [flatMap_cons, length_append] at htotal
      obtain ⟨hline, hdone, hvalue⟩ := hlines.1
      have hprocess : (reader X decodeCompleted).process (asBytes ("data: " ++ payload.1)) s = _ :=
        processEvent_payload hline hdone hvalue
      have hrest := ih hlines.2 hevs.2 (by omega)
      rw [map_cons, map_cons, SseReader.runEvents, runPayloads, hprocess]
      cases strField X payload.2 "type" malformedData with
      | error error => rfl
      | ok eventType =>
        simp only [Transcript.lift_ok_bind, hrest]
        rfl
  have hframes : ∀ payload ∈ payloads.map Prod.fst, OneLine payload := by
    refine forall_mem_map.mpr fun entry hent => ?_
    exact (hlines entry hent).1
  have hconsume := (reader X decodeCompleted).consume_frames hframes
    (by simpa [reader] using fun payload value hmem => hevs (payload, value) hmem)
    (by simpa [reader, flatMap_map, Function.comp_def] using htotal : 0 + _ ≤ _)
    (by show maxStreamBytes ≤ u64Max; decide) .default
  rw [map_map, map_map] at hconsume
  exact hconsume.trans (hrun .default)

theorem addFunctionCall_after :
    After log (addFunctionCall X value s) fun log' s' =>
      ∃ itemId id name, log' = log ++ [.toolCallStarted id name] ∧
        ((value.get? "item").bind fun item => item.get? "call_id").bind Json.asStr? = some id.val ∧
        s.calls.get? itemId = none ∧ s'.calls = s.calls.insert itemId ⟨id, name, "", false⟩ := by
  refine lift_bind fun item hitem => lift_bind fun itemId _ =>
    lift_bind fun callId hcallId => lift_bind fun _ _ =>
    lift_bind fun id hid => lift_bind fun name _ =>
    require_bind fun hfree => send_bind (after_pure ?_)
  have hfound : value.get? "item" = some item := (Option.filter_eq_some_iff.mp (okOr_ok.mp hitem)).1
  have hval : id.val = callId := val_of_parse (mapError_ok.mp hid)
  refine ⟨itemId, id, name, rfl, ?_, hfree, rfl⟩
  rw [hfound, hval]
  exact strField_ok.mp hcallId

theorem sendArguments_after :
    After log (sendArguments X id arguments) fun log' _ =>
      ∃ delta, log' = log ++ [.toolCallArgumentsDelta id delta] :=
  lift_bind fun delta _ => after_send ⟨delta, rfl⟩

/-- The call an argument event is about. -/
def Open (s : State) (itemId : String) (call : ResponsesToolCall) : Prop :=
  (itemId, call) ∈ s.calls.entries ∧ call.completed = false

/-- Arguments of a call are passed on, or nothing is. -/
def PassesOn (id : ToolCallId) (log log' : List ProviderEvent) : Prop :=
  log' = log ∨ ∃ delta, log' = log ++ [.toolCallArgumentsDelta id delta]

theorem addArguments_after :
    After log (addArguments X value s) fun log' s' =>
      ∃ itemId call total, Open s itemId call ∧ PassesOn call.id log log' ∧
        s'.calls = s.calls.insert itemId { call with arguments := total } := by
  refine lift_bind fun itemId _ => lift_bind fun arguments _ =>
    lift_bind fun call hcall => lift_bind fun total _ => ?_
  obtain ⟨hfound, hopen⟩ := Option.filter_eq_some_iff.mp (okOr_ok.mp hcall)
  have hcall : Open s itemId call := ⟨get?_eq_some.mp hfound, by simpa using hopen⟩
  refine .bind (Q := fun log' _ => PassesOn call.id log log') ?_ fun log' _ hlog => ?_
  · exact onlyIf (fun _ => sendArguments_after.mono fun _ _ h => .inr h) fun _ => .inl rfl
  · exact after_pure ⟨itemId, call, total, hcall, hlog, rfl⟩

theorem finishArguments_after :
    After log (finishArguments X value s) fun log' s' =>
      ∃ itemId call total log₁, Open s itemId call ∧ PassesOn call.id log log₁ ∧
        log' = log₁ ++ [.toolCallCompleted call.id] ∧
        s'.calls = s.calls.insert itemId { call with arguments := total, completed := true } := by
  refine lift_bind fun itemId _ => lift_bind fun name _ =>
    lift_bind fun arguments _ => lift_bind fun call hcall => ?_
  obtain ⟨hfound, hopen⟩ := Option.filter_eq_some_iff.mp (okOr_ok.mp hcall)
  have hcall : Open s itemId call :=
    ⟨get?_eq_some.mp hfound, by simpa using (Bool.and_eq_true_iff.mp hopen).1⟩
  refine .bind (Q := fun log' call' => PassesOn call.id log log' ∧
    ∃ total, call' = { call with arguments := total }) ?_ ?_
  · refine .ite (fun _ => ?_) fun _ => ?_
    · refine lift_bind fun total _ => sendArguments_after.bind fun log' _ hlog => ?_
      exact after_pure ⟨.inr hlog, total, rfl⟩
    · exact require_bind fun _ => after_pure ⟨.inl rfl, call.arguments, rfl⟩
  · rintro log₁ _ ⟨hlog, total, rfl⟩
    exact send_bind (after_pure ⟨itemId, call, total, log₁, hcall, hlog, rfl, rfl⟩)

end Steps

/-! ### The books -/

section Books

variable {log : List ProviderEvent} {s : State} {itemId : String} {call call' : ResponsesToolCall}

/-- The identifiers of the calls that are announced and not completed. -/
def active (s : State) : Set ToolCallId :=
  {id | ∃ itemId call, Open s itemId call ∧ call.id = id}

/-- The tracker's account of the calls, as long as no identifier is announced twice. -/
structure Books (log : List ProviderEvent) (s : State) : Prop where
  ledger : Ledger ProviderEvent.call? log (active s)
    {id | id ∈ openedKeys ProviderEvent.call? log}
  known : ∀ itemId call, (itemId, call) ∈ s.calls.entries →
    call.id ∈ openedKeys ProviderEvent.call? log
  distinct : ∀ itemId call itemId' call', (itemId, call) ∈ s.calls.entries →
    (itemId', call') ∈ s.calls.entries → call.id = call'.id → itemId = itemId'

theorem Books.default : Books [] .default where
  ledger := by
    have hactv : active .default = ∅ := by
      ext id
      simp [active, Open, State.default, empty]
    have hused : {id | id ∈ openedKeys call? []} = (∅ : Set ToolCallId) := by
      ext id
      simp [openedKeys]
    rw [hactv, hused]
    exact Ledger.nil
  known _ _ h := nomatch h
  distinct _ _ _ _ h := nomatch h

theorem mem_active_insert (hs : s'.calls = s.calls.insert itemId call') :
    id ∈ active s' ↔ call'.completed = false ∧ call'.id = id ∨
      ∃ other call, other ≠ itemId ∧ Open s other call ∧ call.id = id := by
  simp only [active, Open, hs, Set.mem_ofPred_eq, mem_insert]
  constructor
  · rintro ⟨other, call, ⟨⟨rfl, rfl⟩ | ⟨hne, hmem⟩, hopen⟩, hid⟩
    · exact .inl ⟨hopen, hid⟩
    · exact .inr ⟨other, call, hne, ⟨hmem, hopen⟩, hid⟩
  · rintro (⟨hopen, hid⟩ | ⟨other, call, hne, ⟨hmem, hopen⟩, hid⟩)
    · exact ⟨itemId, call', ⟨.inl ⟨rfl, rfl⟩, hopen⟩, hid⟩
    · exact ⟨other, call, ⟨.inr ⟨hne, hmem⟩, hopen⟩, hid⟩

/-- A call is announced under a new identifier. -/
theorem Books.announce (h : Books log s)
    (hfree : s.calls.get? itemId = none) (hnew : id ∉ openedKeys call? log)
    (hs : s'.calls = s.calls.insert itemId ⟨id, name, "", false⟩) :
    Books (log ++ [.toolCallStarted id name]) s' := by
  have hfree := get?_eq_none.mp hfree
  have hopened : openedKeys call? (log ++ [.toolCallStarted id name]) =
      openedKeys call? log ++ [id] := openedKeys_append _ _
  have hactv : active s' = insert id (active s) := by
    ext other
    rw [mem_active_insert hs, Set.mem_insert_iff]
    constructor
    · rintro (⟨_, hid⟩ | ⟨item, call, _, hopen, hid⟩)
      · exact .inl hid.symm
      · exact .inr ⟨item, call, hopen, hid⟩
    · rintro (hid | ⟨item, call, hopen, hid⟩)
      · exact .inl ⟨rfl, hid.symm⟩
      · have hne : item ≠ itemId := by
          rintro rfl
          exact hfree call hopen.1
        exact .inr ⟨item, call, hne, hopen, hid⟩
  have hused : {other | other ∈ openedKeys call? log ++ [id]} =
      insert id {other | other ∈ openedKeys call? log} := by
    ext other
    simp [or_comm]
  refine ⟨?_, ?_, ?_⟩
  · rw [hopened, hactv, hused]
    exact h.ledger.start rfl hnew
  · intro item call hmem
    rw [hopened, mem_append]
    rw [hs, mem_insert] at hmem
    rcases hmem with ⟨_, rfl⟩ | ⟨_, hmem⟩
    · exact .inr (mem_singleton.mpr rfl)
    · exact .inl (h.known item call hmem)
  · intro item call item' call' hmem hmem' hid
    rw [hs, mem_insert] at hmem hmem'
    rcases hmem with ⟨rfl, rfl⟩ | ⟨_, hmem⟩ <;> rcases hmem' with ⟨rfl, rfl⟩ | ⟨_, hmem'⟩
    · rfl
    · exact absurd (h.known _ _ hmem') (hid ▸ hnew)
    · exact absurd (h.known _ _ hmem) (hid ▸ hnew)
    · exact h.distinct _ _ _ _ hmem hmem' hid

/-- The entry of a call is replaced by one with the same identifier. -/
theorem Books.replace (h : Books log s) (hopen : Open s itemId call)
    (hs : s'.calls = s.calls.insert itemId call') (hid : call'.id = call.id)
    (hopened : openedKeys call? log' = openedKeys call? log)
    (hledger : Ledger call? log' (active s')
      {id | id ∈ openedKeys call? log}) :
    Books log' s' := by
  refine ⟨hopened ▸ hledger, ?_, ?_⟩
  · intro item other hmem
    rw [hs, mem_insert] at hmem
    rw [hopened]
    rcases hmem with ⟨_, rfl⟩ | ⟨_, hmem⟩
    · rw [hid]
      exact h.known itemId call hopen.1
    · exact h.known item other hmem
  · intro item other item' other' hmem hmem' hsame
    rw [hs, mem_insert] at hmem hmem'
    rcases hmem with ⟨rfl, rfl⟩ | ⟨_, hmem⟩ <;> rcases hmem' with ⟨rfl, rfl⟩ | ⟨_, hmem'⟩
    · rfl
    · exact h.distinct _ _ _ _ hopen.1 hmem' (hid ▸ hsame)
    · exact h.distinct _ _ _ _ hmem hopen.1 (hid ▸ hsame)
    · exact h.distinct _ _ _ _ hmem hmem' hsame

/-- The call stays open. -/
theorem active_replace_open (hopen : Open s itemId call)
    (hs : s'.calls = s.calls.insert itemId call') (hid : call'.id = call.id)
    (hstill : call'.completed = false) :
    active s' = active s := by
  ext id
  rw [mem_active_insert hs]
  constructor
  · rintro (⟨_, rfl⟩ | ⟨item, other, _, hoth, hid'⟩)
    · exact ⟨itemId, call, hopen, hid.symm⟩
    · exact ⟨item, other, hoth, hid'⟩
  · rintro ⟨item, other, hoth, rfl⟩
    by_cases hitem : item = itemId
    · subst hitem
      have hsame : other = call := eq_of_mem hoth.1 hopen.1
      exact .inl ⟨hstill, by rw [hid, hsame]⟩
    · exact .inr ⟨item, other, hitem, hoth, rfl⟩

/-- The call is completed, and no other call has its identifier. -/
theorem Books.active_replace_done (h : Books log s) (hopen : Open s itemId call)
    (hs : s'.calls = s.calls.insert itemId call') (hdone : call'.completed = true) :
    active s' = active s \ {call.id} := by
  ext id
  rw [mem_active_insert hs]
  constructor
  · rintro (⟨hfalse, _⟩ | ⟨item, other, hne, hoth, rfl⟩)
    · rw [hdone] at hfalse
      cases hfalse
    · exact ⟨⟨item, other, hoth, rfl⟩, fun hsame => hne (h.distinct _ _ _ _ hoth.1 hopen.1 hsame)⟩
  · rintro ⟨⟨item, other, hoth, rfl⟩, hne⟩
    refine .inr ⟨item, other, ?_, hoth, rfl⟩
    rintro rfl
    exact hne (congrArg ResponsesToolCall.id (eq_of_mem hoth.1 hopen.1))

theorem openedKeys_completed : openedKeys call? (log ++ [.toolCallCompleted id]) =
    openedKeys call? log := by
  rw [openedKeys_append]
  exact append_nil _

theorem PassesOn.openedKeys (h : PassesOn id log log') :
    openedKeys call? log' = openedKeys call? log := by
  rcases h with rfl | ⟨delta, rfl⟩
  · rfl
  · rw [openedKeys_append]
    exact append_nil _

theorem PassesOn.ledger {active used : Set ToolCallId} (h : PassesOn id log log')
    (hledger : Ledger call? log active used) (hactv : id ∈ active) :
    Ledger call? log' active used := by
  rcases h with rfl | ⟨delta, rfl⟩
  · exact hledger
  · exact hledger.inside rfl hactv

/-- Arguments of an open call are passed on. -/
theorem Books.argue (h : Books log s) (hopen : Open s itemId call)
    (hlog : PassesOn call.id log log')
    (hs : s'.calls = s.calls.insert itemId { call with arguments := total }) :
    Books log' s' := by
  have hactv := active_replace_open hopen hs rfl hopen.2
  refine h.replace hopen hs rfl hlog.openedKeys ?_
  rw [hactv]
  exact hlog.ledger h.ledger ⟨itemId, call, hopen, rfl⟩

/-- An open call is completed. -/
theorem Books.settle (h : Books log s) (hopen : Open s itemId call)
    (hlog : PassesOn call.id log log')
    (hs : s'.calls = s.calls.insert itemId { call with arguments := total, completed := true }) :
    Books (log' ++ [.toolCallCompleted call.id]) s' := by
  have hactv := h.active_replace_done hopen hs rfl
  have hcall : call.id ∈ active s := ⟨itemId, call, hopen, rfl⟩
  refine h.replace hopen hs rfl (openedKeys_completed.trans hlog.openedKeys) ?_
  rw [hactv]
  exact (hlog.ledger h.ledger hcall).finish rfl hcall

end Books

/-! ### A whole response -/

section Stream

variable {X : ProviderExternals} {log : List ProviderEvent} {frames : List Bytes} {s : State}

/-- What holds while a response is read: the calls opened are those announced, in order, and
    the books are right unless one of them was announced before. -/
structure Reading (X : ProviderExternals) (log : List ProviderEvent) (frames : List Bytes)
    (s : State) : Prop where
  announced : (openedKeys ProviderEvent.call? log).map ToolCallId.val =
    frames.filterMap (announcedCallId X)
  unfinished : ∀ event ∈ frames, isCompletion X event = false
  books : (openedKeys ProviderEvent.call? log).Nodup → Books log s

/-- What holds once `response.completed` is processed. -/
def Completed (X : ProviderExternals) (log : List ProviderEvent) (frames : List Bytes)
    (s : State) : Prop :=
  ∃ before last, frames = before ++ [last] ∧ isCompletion X last = true ∧
    Reading X log before s ∧ active s = ∅

/-- An event that opens no call and is not the completion. -/
theorem Reading.next (h : Reading X log frames s) (hanns : announcedCallId X event = none)
    (hcompls : isCompletion X event = false)
    (hopened : openedKeys call? log' = openedKeys call? log)
    (hbooks : Books log s → Books log' s') : Reading X log' (frames ++ [event]) s' where
  announced := by
    rw [hopened, filterMap_append, h.announced]
    simp [hanns]
  unfinished := by
    intro other hoth
    rcases mem_append.mp hoth with hmem | hmem
    · exact h.unfinished other hmem
    · rw [mem_singleton.mp hmem]
      exact hcompls
  books := by
    rw [hopened]
    exact fun hnodup => hbooks (h.books hnodup)

/-- An event that opens a call. -/
theorem Reading.announce (h : Reading X log frames s)
    (hanns : announcedCallId X event = some id.val) (hcompls : isCompletion X event = false)
    (hfree : s.calls.get? itemId = none)
    (hs : s'.calls = s.calls.insert itemId ⟨id, name, "", false⟩) :
    Reading X (log ++ [.toolCallStarted id name]) (frames ++ [event]) s' := by
  have hopened : openedKeys call? (log ++ [.toolCallStarted id name]) =
      openedKeys call? log ++ [id] := openedKeys_append _ _
  refine ⟨?_, ?_, ?_⟩
  · rw [hopened, map_append, h.announced, filterMap_append]
    simp [hanns]
  · intro other hoth
    rcases mem_append.mp hoth with hmem | hmem
    · exact h.unfinished other hmem
    · rw [mem_singleton.mp hmem]
      exact hcompls
  · rw [hopened]
    intro hnodup
    obtain ⟨hbef, _, hdisj⟩ := nodup_append.mp hnodup
    refine (h.books hbef).announce hfree (fun hmem => ?_) hs
    exact hdisj id hmem id (mem_singleton.mpr rfl) rfl

theorem Books.quiet {event : ProviderEvent} (h : Books log s)
    (hview : event.call? = none) : Books (log ++ [event]) s := by
  have hopened : openedKeys call? (log ++ [event]) =
      openedKeys call? log := by
    simp [openedKeys, hview]
  refine ⟨?_, ?_, h.distinct⟩
  · rw [hopened]
    exact h.ledger.skip hview
  · rw [hopened]
    exact h.known

theorem complete_ok (h : complete X decodeCompleted value s = .ok s') :
    s'.calls = s.calls ∧ active s = ∅ := by
  obtain ⟨response, _, _, h⟩ := step_guard h
  obtain ⟨hall, h⟩ := guard_ok.mp h
  have hs := pure_inj h
  subst hs
  refine ⟨rfl, Set.eq_empty_iff_forall_notMem.mpr ?_⟩
  rintro id ⟨itemId, call, ⟨hmem, hopen⟩, _⟩
  have hdone := hall call (mem_map.mpr ⟨(itemId, call), hmem, rfl⟩)
  rw [hopen] at hdone
  cases hdone

/-- A text is passed on. -/
theorem Reading.passOn (h : Reading X log frames s)
    (hanns : announcedCallId X event = none) (hcompls : isCompletion X event = false)
    {c : Prop} [Decidable c] {message : ProviderEvent} (hview : message.call? = none) :
    After log (Transcript.onlyIf c (.send message) : Response Unit) fun log' _ =>
      Reading X log' (frames ++ [event]) s := by
  have hopened : openedKeys call? (log ++ [message]) =
      openedKeys call? log := by
    simp [openedKeys, hview]
  refine onlyIf (fun _ => after_send ?_) fun _ => ?_
  · exact h.next hanns hcompls hopened fun hbooks => hbooks.quiet hview
  · exact h.next hanns hcompls rfl id

/-- **One event.** -/
theorem processEvent_keeps :
    (reader X decodeCompleted).Keeps (Reading X) (Completed X) := by
  intro log frames s event h
  show After log (processEvent X decodeCompleted event s) _
  refine lift_bind fun decoded hdec => ?_
  cases decoded with
  | none =>
    have hanns : announcedCallId X event = none := by rw [announcedCallId, hdec]
    have hcompls : isCompletion X event = false := by rw [isCompletion, hdec]
    exact after_pure (h.next hanns hcompls rfl id)
  | some payload =>
    obtain ⟨eventType, value⟩ := payload
    have hanns : announcedCallId X event = if eventKind eventType value = .functionCallAdded then
          ((value.get? "item").bind fun item => item.get? "call_id").bind Json.asStr?
        else none := by rw [announcedCallId, hdec]
    have hcompls : isCompletion X event = decide (eventKind eventType value = .completed) := by
      rw [isCompletion, hdec]
    show After log (processKind X decodeCompleted value s (eventKind eventType value)) _
    generalize eventKind eventType value = kind at hanns hcompls ⊢
    cases kind with
    | textDelta =>
      refine lift_bind fun delta _ => (h.passOn hanns hcompls rfl).bind ?_
      exact fun _ _ hkept => after_pure hkept
    | reasoningDelta =>
      refine lift_bind fun delta _ => (h.passOn hanns hcompls rfl).bind ?_
      exact fun _ _ hkept => after_pure hkept
    | functionCallAdded =>
      refine addFunctionCall_after.bind fun log' s' hadded => after_pure ?_
      obtain ⟨itemId, id, name, rfl, hid, hfree, hs⟩ := hadded
      exact h.announce (hanns.trans hid) hcompls hfree hs
    | argumentsDelta =>
      refine addArguments_after.bind fun log' s' hadded => after_pure ?_
      obtain ⟨itemId, call, total, hopen, hlog, hs⟩ := hadded
      exact h.next hanns hcompls hlog.openedKeys fun hbooks => hbooks.argue hopen hlog hs
    | argumentsDone =>
      refine finishArguments_after.bind fun log' s' hdone => after_pure ?_
      obtain ⟨itemId, call, total, log₁, hopen, hlog, rfl, hs⟩ := hdone
      exact h.next hanns hcompls (openedKeys_completed.trans hlog.openedKeys)
        fun hbooks => hbooks.settle hopen hlog hs
    | completed =>
      refine lift_bind fun s' hs => after_pure ?_
      obtain ⟨hcalls, hidle⟩ := complete_ok hs
      have hsame : active s' = active s := by simp only [active, Open, hcalls]
      refine ⟨frames, event, rfl, hcompls, ⟨h.announced, h.unfinished, ?_⟩, hsame.trans hidle⟩
      intro hnodup
      have hbooks := h.books hnodup
      exact ⟨hsame ▸ hbooks.ledger, hcalls ▸ hbooks.known, hcalls ▸ hbooks.distinct⟩
    | failed => exact after_fail
    | other => exact after_pure (h.next hanns hcompls rfl id)

theorem takeWhile_of_completed {before : List Bytes} {last : Bytes}
    (hbef : ∀ event ∈ before, isCompletion X event = false) (hlast : isCompletion X last = true)
    (rest : List Bytes) :
    (before ++ [last] ++ rest).takeWhile (fun event => !isCompletion X event) = before := by
  have hall : ∀ event ∈ before, (!isCompletion X event) = true := by simpa using hbef
  rw [append_assoc, takeWhile_append_of_pos hall]
  simp [hlast]

/-- **The Responses adapter.** What it sends for a response it completes is well bracketed
    exactly if no two function calls were announced under one identifier. -/
theorem consumeResponseStream_wellBracketed_iff {arrivals : List Arrival}
    (h : (consumeResponseStream X decodeCompleted arrivals).result = .ok usage) :
    WellBracketed call? (consumeResponseStream X decodeCompleted arrivals).sent ↔
      (announcedCallIds X arrivals).Nodup := by
  have hstart : Reading X [] [] .default :=
    ⟨rfl, fun _ hmem => (nomatch hmem), fun _ => Books.default⟩
  rcases SseReader.consume_run processEvent_keeps hstart h with
    ⟨seen, rest, s, hframes, hcompd, _⟩ | ⟨s, _, hfinish⟩
  · obtain ⟨before, last, rfl, hlast, hreading, hidle⟩ := hcompd
    have hids : (openedKeys call?
        (consumeResponseStream X decodeCompleted arrivals).sent).map val =
        announcedCallIds X arrivals := by
      rw [announcedCallIds, hframes, takeWhile_of_completed hreading.unfinished hlast]
      exact hreading.announced
    rw [← hids, nodup_map_iff val_injective]
    constructor
    · exact WellBracketed.nodup_openedKeys
    · intro hnodup
      have hledger := (hreading.books hnodup).ledger
      rw [hidle] at hledger
      exact hledger.wellBracketed
  · cases hfinish

end Stream

end LorePia.Providers.OpenAiResponses
