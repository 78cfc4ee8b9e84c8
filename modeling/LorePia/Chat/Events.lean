import LorePia.Domain.Provider

namespace LorePia.Chat

open Lib

/-!
# Chat — events and their channels

`ChatEvent` as the core sends it to a shell, and the channels that can be read off a sequence
of provider events or of chat events: the text, the reasoning, the arguments of one tool call,
and the life cycle of each call.  A channel is the concatenation of what its events carry, so
a fragmentation is not part of it.

The time of an event is left out: nothing in the core reads it.
-/

/-- `CHAT_EVENT_VERSION`. -/
def chatEventVersion : Nat := 4

inductive ChatEventKind
  | generationStarted
  | reasoningDelta (delta : String)
  | textDelta (delta : String)
  | toolCallStarted (id : ToolCallId) (name : ToolName)
  | toolCallArgumentsDelta (id : ToolCallId) (delta : ToolCallArgumentsDelta)
  | toolCallCompleted (id : ToolCallId)
  | usageUpdated (usage : GenerationUsage)
  | messageCommitted (messageId : String) (status : MessageStatus)
  | generationCancelled
  | generationFailed (code message : String)
  | generationFinished
deriving DecidableEq

structure ChatEvent where
  eventVersion : Nat
  generationId : String
  conversationId : String
  branchId : Option String
  assistantMessageId : Option String
  sequence : Nat
  kind : ChatEventKind
deriving DecidableEq

def ChatEvent.new (generationId conversationId : String) (sequence : Nat) (kind : ChatEventKind) :
    ChatEvent where
  eventVersion := chatEventVersion
  generationId := generationId
  conversationId := conversationId
  branchId := none
  assistantMessageId := none
  sequence := sequence
  kind := kind

/-- `ChatEvent::with_route`. -/
def ChatEvent.withRoute (event : ChatEvent) (branchId assistantMessageId : String) : ChatEvent :=
  { event with branchId := some branchId, assistantMessageId := some assistantMessageId }

/-! ### Channels -/

/-- What the events of a sequence carry on one channel. -/
def channel {ε : Type} (carried : ε → Option String) (events : List ε) : String :=
  concat (events.filterMap carried)

section Channel

variable {ε : Type}

@[simp] theorem channel_append (before after : List ε) :
    channel carried (before ++ after) = channel carried before ++ channel carried after := by
  simp [channel]

theorem channel_singleton (event : ε) :
    channel carried [event] = (carried event).getD "" := by
  cases h : carried event <;> simp [channel, h]

/-- Events that carry nothing on a channel leave it empty. -/
theorem channel_eq_empty (h : ∀ event ∈ events, carried event = none) :
    channel carried events = "" := by
  rw [channel, List.filterMap_eq_nil_iff.mpr h]
  rfl

end Channel

namespace ChatEventKind

def text? : ChatEventKind → Option String
  | .textDelta delta => some delta
  | _ => none

def reasoning? : ChatEventKind → Option String
  | .reasoningDelta delta => some delta
  | _ => none

def arguments? (id : ToolCallId) : ChatEventKind → Option String
  | .toolCallArgumentsDelta id' delta => if id' = id then some delta.val else none
  | _ => none

def call? : ChatEventKind → Option (ToolCallId × Mark)
  | .toolCallStarted id _ => some (id, .opened)
  | .toolCallArgumentsDelta id _ => some (id, .within)
  | .toolCallCompleted id => some (id, .closed)
  | _ => none

end ChatEventKind

/-- What the provider sent on each channel. -/
def sentText (events : List ProviderEvent) : String := channel ProviderEvent.text? events

def sentReasoning (events : List ProviderEvent) : String := channel ProviderEvent.reasoning? events

def sentArguments (id : ToolCallId) (events : List ProviderEvent) : String :=
  channel (ProviderEvent.arguments? id) events

/-- What was emitted on each channel. -/
def emittedText (events : List ChatEvent) : String :=
  channel (fun event => event.kind.text?) events

def emittedReasoning (events : List ChatEvent) : String :=
  channel (fun event => event.kind.reasoning?) events

def emittedArguments (id : ToolCallId) (events : List ChatEvent) : String :=
  channel (fun event => event.kind.arguments? id) events

def emittedCall (event : ChatEvent) : Option (ToolCallId × Mark) := event.kind.call?

/-- The texts of a usage summary: its strings and keys, or all of it if it is not JSON. -/
def summaryTexts (parseJson : String → Option Json) (usage : GenerationUsage) : List String :=
  match usage.providerRawSummary with
  | none => []
  | some summary =>
    match parseJson summary.val with
    | none => [summary.val]
    | some value => value.texts

/-- The texts an event carries outside the channels: identifiers, names and the summary. -/
def ChatEventKind.names (parseJson : String → Option Json) : ChatEventKind → List String
  | .toolCallStarted id name => [id.val, name.val]
  | .toolCallArgumentsDelta id _ | .toolCallCompleted id => [id.val]
  | .usageUpdated usage => summaryTexts parseJson usage
  | _ => []

/-! ### Traffic -/

/-- The texts of all channels. -/
@[ext] structure Traffic where
  text : String
  reasoning : String
  arguments : ToolCallId → String

namespace Traffic

/-- No text on any channel. -/
def silent : Traffic := ⟨"", "", fun _ => ""⟩

/-- First one text on each channel, then another. -/
def append (before after : Traffic) : Traffic :=
  ⟨before.text ++ after.text, before.reasoning ++ after.reasoning,
    fun id => before.arguments id ++ after.arguments id⟩

instance : Append Traffic := ⟨append⟩

@[simp] theorem append_text (before after : Traffic) :
    (before ++ after).text = before.text ++ after.text := rfl

@[simp] theorem append_reasoning (before after : Traffic) :
    (before ++ after).reasoning = before.reasoning ++ after.reasoning := rfl

@[simp] theorem append_arguments (before after : Traffic) (id : ToolCallId) :
    (before ++ after).arguments id = before.arguments id ++ after.arguments id := rfl

/-- A text on one channel only. -/
def onText (text : String) : Traffic := { silent with text }

def onReasoning (text : String) : Traffic := { silent with reasoning := text }

def onCall (id : ToolCallId) (text : String) : Traffic :=
  { silent with arguments := fun other => if id = other then text else "" }

@[simp] theorem append_silent (traffic : Traffic) : traffic ++ silent = traffic := by
  apply Traffic.ext
  · simp [silent]
  · simp [silent]
  · funext id
    simp [silent]

/-- Two texts on one call are one text on it. -/
theorem append_onCall (traffic : Traffic) (id : ToolCallId) (a b : String) :
    traffic ++ onCall id a ++ onCall id b = traffic ++ onCall id (a ++ b) := by
  apply Traffic.ext
  · simp [onCall, silent]
  · simp [onCall, silent]
  · funext other
    by_cases hoth : id = other <;> simp [onCall, hoth, String.append_assoc]

@[simp] theorem onText_empty : onText "" = silent := rfl

@[simp] theorem onReasoning_empty : onReasoning "" = silent := rfl

@[simp] theorem onCall_empty (id : ToolCallId) : onCall id "" = silent := by
  simp [onCall, silent]

end Traffic

def sentTraffic (events : List ProviderEvent) : Traffic :=
  ⟨sentText events, sentReasoning events, fun id => sentArguments id events⟩

def emittedTraffic (events : List ChatEvent) : Traffic :=
  ⟨emittedText events, emittedReasoning events, fun id => emittedArguments id events⟩

/-- What one provider event sends. -/
def trafficOf (event : ProviderEvent) : Traffic :=
  ⟨event.text?.getD "", event.reasoning?.getD "", fun id => (event.arguments? id).getD ""⟩

/-- What one chat event emits. -/
def ChatEventKind.traffic (kind : ChatEventKind) : Traffic :=
  ⟨kind.text?.getD "", kind.reasoning?.getD "", fun id => (kind.arguments? id).getD ""⟩

theorem getD_arguments (id other : ToolCallId) (text : String) :
    (if id = other then some text else none).getD "" = if id = other then text else "" := by
  split <;> rfl

theorem trafficOf_arguments (id : ToolCallId) (delta : ToolCallArgumentsDelta) :
    trafficOf (.toolCallArgumentsDelta id delta) = .onCall id delta.val := by
  rw [trafficOf, Traffic.onCall, Traffic.silent]
  simp only [ProviderEvent.arguments?, getD_arguments]
  rfl

theorem traffic_arguments (id : ToolCallId) (delta : ToolCallArgumentsDelta) :
    (ChatEventKind.toolCallArgumentsDelta id delta).traffic = .onCall id delta.val := by
  rw [ChatEventKind.traffic, Traffic.onCall, Traffic.silent]
  simp only [ChatEventKind.arguments?, getD_arguments]
  rfl

theorem sentTraffic_snoc (events : List ProviderEvent) (event : ProviderEvent) :
    sentTraffic (events ++ [event]) = sentTraffic events ++ trafficOf event := by
  apply Traffic.ext
  · simp [sentTraffic, sentText, channel_singleton, trafficOf]
  · simp [sentTraffic, sentReasoning, channel_singleton, trafficOf]
  · funext id
    simp [sentTraffic, sentArguments, channel_singleton, trafficOf]

theorem emittedTraffic_snoc (events : List ChatEvent) (event : ChatEvent) :
    emittedTraffic (events ++ [event]) = emittedTraffic events ++ event.kind.traffic := by
  apply Traffic.ext
  · simp [emittedTraffic, emittedText, channel_singleton, ChatEventKind.traffic]
  · simp [emittedTraffic, emittedReasoning, channel_singleton, ChatEventKind.traffic]
  · funext id
    simp [emittedTraffic, emittedArguments, channel_singleton, ChatEventKind.traffic]

/-- The text of a tool argument fragment has no control character. -/
theorem hasControl_delta (delta : ToolCallArgumentsDelta) :
    hasControl delta.val = false := by
  have h := delta.valid
  simp only [isBoundedProtocolText, Bool.and_eq_true, Bool.not_eq_true'] at h
  exact h.1.1.2

theorem byteLen_delta_le (delta : ToolCallArgumentsDelta) :
    byteLen delta.val ≤ maxToolArgumentDeltaBytes := by
  have h := delta.valid
  simp only [isBoundedProtocolText, Bool.and_eq_true, decide_eq_true_eq] at h
  exact h.1.2

/-- Nor do the arguments a provider sent for a call. -/
theorem hasControl_sentArguments (id : ToolCallId) (events : List ProviderEvent) :
    hasControl (sentArguments id events) = false := by
  rw [sentArguments, channel]
  induction events with
  | nil => rfl
  | cons event events ih =>
    rw [List.filterMap_cons]
    cases hargs : event.arguments? id with
    | none => exact ih
    | some text =>
      rw [concat_cons, hasControl_append, ih, Bool.or_false]
      cases event <;> simp [ProviderEvent.arguments?] at hargs
      rw [← hargs.2]
      exact hasControl_delta _

/-- A call that was not mentioned got no arguments. -/
theorem sentArguments_eq_empty {id : ToolCallId} (h : marksOf ProviderEvent.call? id events = []) :
    sentArguments id events = "" := by
  refine channel_eq_empty fun event hev => ?_
  have hmark := List.filterMap_eq_nil_iff.mp h event hev
  cases event with
  | toolCallArgumentsDelta id' delta =>
    have hne : id' ≠ id := by simpa [markAt, ProviderEvent.call?] using hmark
    simp [ProviderEvent.arguments?, hne]
  | textDelta _ | reasoningDelta _ | opaqueReasoningState _ | toolCallStarted _ _
  | toolCallCompleted _ => rfl

end LorePia.Chat
