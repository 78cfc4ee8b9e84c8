import LorePia.Chat.Generation

namespace LorePia.Chat

open Lib List ChatEventKind Function Nat ToolCallArgumentsDelta Traffic

/-!
# Chat — what the accumulator keeps

One invariant (`Sound`) relates the accumulator to the provider events it has forwarded so
far.  For every channel, what was emitted and what its reflection stream still holds make up
what was sent; a call is open exactly while the provider keeps it open; nothing that was
emitted contains the credential; and the emitted events are numbered without a gap.

* `emitChunks_eq` — cutting arguments into chunks loses nothing and ends;
* `Relays.emitText`, `Relays.emitReasoning`, `Relays.emitStart` — an event of one channel
    keeps the account of all of them;
* `emitFilteredToolArguments_eq` — so do the chunks of an argument.

All of it is about a receiver that stays open.
-/

variable {id : ToolCallId} {acc' : GenerationAccumulator} {error : CoreError} {kind : ChatEventKind}
  {value : String}

/-! ### Emission -/

namespace GenerationAccumulator

variable {acc : GenerationAccumulator}

/-- The accumulator after an event went out. -/
def emitting (acc : GenerationAccumulator) (kind : ChatEventKind) : GenerationAccumulator :=
  { acc with
    sequence := saturatingAdd acc.sequence 1
    emitted := acc.emitted ++
      [.new acc.generationId acc.conversationId (saturatingAdd acc.sequence 1) kind] }

theorem sendEvent_of_open (h : acc.receiver = none) (event : ChatEvent) :
    acc.sendEvent X event = .ok { acc with emitted := acc.emitted ++ [event] } := by
  cases acc
  cases h
  rfl

theorem emit_of_open (h : acc.receiver = none) (kind : ChatEventKind) :
    acc.emit X kind = .ok (acc.emitting kind) := by
  have hopen : ({ acc with sequence := saturatingAdd acc.sequence 1 } :
      GenerationAccumulator).receiver = none := h
  exact sendEvent_of_open hopen _

/-- The accumulator after several events went out. -/
def emittingAll (acc : GenerationAccumulator) (kinds : List ChatEventKind) :
    GenerationAccumulator :=
  kinds.foldl emitting acc

@[simp] theorem emittingAll_cons (kind : ChatEventKind) (kinds : List ChatEventKind) :
    acc.emittingAll (kind :: kinds) = (acc.emitting kind).emittingAll kinds := rfl

/-! ### Chunks -/

theorem chunkEnd_eq (characters «end» : Nat) (cs : List Char)
    (hchars : characters ≤ maxToolArgumentDeltaChars) (hend : «end» ≤ maxToolArgumentDeltaBytes) :
    ∃ taken rest, cs = taken ++ rest ∧
      chunkEnd characters «end» cs = «end» + (taken.flatMap String.utf8EncodeChar).length ∧
      characters + taken.length ≤ maxToolArgumentDeltaChars ∧
      «end» + (taken.flatMap String.utf8EncodeChar).length ≤ maxToolArgumentDeltaBytes := by
  induction cs generalizing characters «end» with
  | nil => exact ⟨[], [], rfl, rfl, hchars, hend⟩
  | cons c cs ih =>
    rw [chunkEnd]
    by_cases hstop : characters = maxToolArgumentDeltaChars ∨
        «end» + c.utf8Size > maxToolArgumentDeltaBytes
    · rw [if_pos hstop]
      exact ⟨[], c :: cs, rfl, rfl, hchars, hend⟩
    · rw [if_neg hstop]
      have hlen : (String.utf8EncodeChar c).length = c.utf8Size := String.length_utf8EncodeChar c
      obtain ⟨taken, rest, rfl, heq, hcount, hbytes⟩ :=
        ih (characters + 1) («end» + c.utf8Size) (by omega) (by omega)
      refine ⟨c :: taken, rest, rfl, ?_, ?_, ?_⟩
      · rw [heq, flatMap_cons, length_append, hlen, Nat.add_assoc]
      · rw [length_cons]
        omega
      · rw [flatMap_cons, length_append, hlen]
        omega

/-- A chunk is a beginning of the text: not empty, and within the limits of a fragment. -/
theorem exists_chunk (hne : value ≠ "") :
    ∃ a b, value = a ++ b ∧ boundedToolArgumentChunkEnd value = byteLen a ∧ a ≠ "" ∧
      byteLen a ≤ maxToolArgumentDeltaBytes ∧ charCount a ≤ maxToolArgumentDeltaChars := by
  obtain ⟨c, cs, hcs⟩ : ∃ c cs, value.toList = c :: cs := by
    cases h : value.toList with
    | nil =>
      have hempty : value = "" := String.toList_injective (by rw [h]; rfl)
      exact absurd hempty hne
    | cons c cs => exact ⟨c, cs, rfl⟩
  have hsize : c.utf8Size ≤ 4 := c.utf8Size_le_four
  have hlen : (String.utf8EncodeChar c).length = c.utf8Size := String.length_utf8EncodeChar c
  -- the first character always fits
  have hfirst : boundedToolArgumentChunkEnd value = chunkEnd 1 c.utf8Size cs := by
    have hfits : ¬ (0 = maxToolArgumentDeltaChars ∨
        0 + c.utf8Size > maxToolArgumentDeltaBytes) := by
      simp only [maxToolArgumentDeltaChars, maxToolArgumentDeltaBytes]
      omega
    rw [boundedToolArgumentChunkEnd, hcs, chunkEnd, if_neg hfits, zero_add, zero_add]
  obtain ⟨taken, rest, rfl, heq, hcount, hbytes⟩ := chunkEnd_eq 1 c.utf8Size cs
    (by simp only [maxToolArgumentDeltaChars]; omega)
    (by simp only [maxToolArgumentDeltaBytes]; omega)
  have hbyteLen : byteLen (String.ofList (c :: taken)) =
      c.utf8Size + (taken.flatMap String.utf8EncodeChar).length := by
    rw [byteLen, asBytes, String.toList_ofList, flatMap_cons, length_append, hlen]
  refine ⟨String.ofList (c :: taken), String.ofList rest, ?_, ?_, ?_, ?_, ?_⟩
  · apply String.toList_injective
    rw [String.toList_append, String.toList_ofList, String.toList_ofList, hcs, cons_append]
  · rw [hfirst, heq, hbyteLen]
  · intro hempty
    have h := congrArg String.toList hempty
    rw [String.toList_ofList] at h
    cases h
  · rw [hbyteLen]
    exact hbytes
  · rw [charCount, String.toList_ofList, length_cons]
    omega

theorem charCount_pos (hne : value ≠ "") : 0 < charCount value := by
  rw [charCount, length_pos_iff]
  intro h
  exact hne (String.toList_injective (by rw [h]; rfl))

/-- **Chunks.** Arguments without control characters are emitted as fragments of the call that
    make up the text, at most one for each character; the loop ends and does not panic. -/
theorem emitChunks_eq (X : ChatExternals) (id : ToolCallId) {rounds : Nat} {remaining : String}
    {acc : GenerationAccumulator} (hopen : acc.receiver = none)
    (hctl : hasControl remaining = false) (hrounds : charCount remaining ≤ rounds) :
    ∃ deltas : List ToolCallArgumentsDelta, emitChunks X id rounds remaining acc =
        .ok (acc.emittingAll (deltas.map (toolCallArgumentsDelta id))) ∧
      concat (deltas.map val) = remaining ∧
      deltas.length ≤ charCount remaining := by
  induction rounds generalizing remaining acc with
  | zero =>
    have hempty : remaining = "" := by
      by_contra hne
      have hpos := charCount_pos hne
      omega
    subst hempty
    exact ⟨[], rfl, rfl, zero_le _⟩
  | succ rounds ih =>
    by_cases hempty : remaining = ""
    · subst hempty
      exact ⟨[], rfl, rfl, zero_le _⟩
    · obtain ⟨a, b, rfl, hend, hne, hbytes, hchars⟩ := exists_chunk hempty
      rw [hasControl_append, Bool.or_eq_false_iff] at hctl
      have hval : isBoundedProtocolText a maxToolArgumentDeltaBytes maxToolArgumentDeltaChars
          false = true := by
        simp [isBoundedProtocolText, hne, hctl.1, hbytes, hchars]
      have hparse : parse a = .ok ⟨a, hval⟩ := parseBounded_ok hval
      have hpos := charCount_pos hne
      rw [charCount_append] at hrounds
      obtain ⟨deltas, hrest, htext, hlen⟩ :=
        @ih b (acc.emitting (.toolCallArgumentsDelta id ⟨a, hval⟩)) hopen hctl.2 (by omega)
      refine ⟨⟨a, hval⟩ :: deltas, ?_, ?_, ?_⟩
      · rw [emitChunks, if_neg hempty, hend, splitOff_append]
        simp only [okOr, ok_bind, hparse, Except.mapError, emit_of_open hopen, hrest,
          map_cons, emittingAll_cons]
      · rw [map_cons, concat_cons, htext]
      · rw [length_cons, charCount_append]
        omega

end GenerationAccumulator

/-! ### Channels -/

/-- The reflection streams that still hold text back, one for each open channel. -/
@[ext] structure Channels where
  text : Option ReflectionStream
  reasoning : Option ReflectionStream
  calls : ToolCallId → Option ReflectionStream

/-- One channel: with its stream open, what went out is what came in up to what the stream
    holds; with its stream closed, everything went out. -/
def Carried (guard : CredentialReflectionGuard) (all released : String) :
    Option ReflectionStream → Prop
  | some stream => stream.Follows guard all released
  | none => released = all ∧ guard.contains all = false

/-- Every channel carries what was sent. -/
structure Conveys (guard : CredentialReflectionGuard) (all released : Traffic)
    (channels : Channels) : Prop where
  text : Carried guard all.text released.text channels.text
  reasoning : Carried guard all.reasoning released.reasoning channels.reasoning
  calls : ∀ id, Carried guard (all.arguments id) (released.arguments id) (channels.calls id)

section Conveying

variable {credential : Option String} {all released : Traffic} {channels : Channels}
  {stream : ReflectionStream}

theorem Carried.clean {all released : String} (h : Carried (.new credential) all released open?) :
    (CredentialReflectionGuard.new credential).contains released = false := by
  cases open? with
  | none => exact h.1 ▸ h.2
  | some stream => exact ReflectionStream.Follows.clean h |>.2

section

variable (h : Conveys (.new credential) all released channels)
include h

theorem Conveys.onText
    (htext : Carried (.new credential) (all.text ++ delta) (released.text ++ out) open?) :
    Conveys (.new credential) (all ++ .onText delta) (released ++ .onText out)
      { channels with text := open? } := by
  refine ⟨htext, ?_, fun id => ?_⟩
  · simpa [Traffic.onText, Traffic.silent] using h.reasoning
  · simpa [Traffic.onText, Traffic.silent] using h.calls id

theorem Conveys.onReasoning
    (hreas : Carried (.new credential) (all.reasoning ++ delta) (released.reasoning ++ out) open?) :
    Conveys (.new credential) (all ++ .onReasoning delta) (released ++ .onReasoning out)
      { channels with reasoning := open? } := by
  refine ⟨?_, hreas, fun id => ?_⟩
  · simpa [Traffic.onReasoning, Traffic.silent] using h.text
  · simpa [Traffic.onReasoning, Traffic.silent] using h.calls id

theorem Conveys.onCall
    (hcall : Carried (.new credential) (all.arguments id ++ delta) (released.arguments id ++ out)
      open?) :
    Conveys (.new credential) (all ++ .onCall id delta) (released ++ .onCall id out)
      { channels with calls := update channels.calls id open? } := by
  refine ⟨?_, ?_, fun other => ?_⟩
  · simpa [Traffic.onCall, Traffic.silent] using h.text
  · simpa [Traffic.onCall, Traffic.silent] using h.reasoning
  · by_cases hoth : other = id
    · subst hoth
      simpa [onCall] using hcall
    · simpa [Traffic.onCall, hoth, Ne.symm hoth] using h.calls other

end

theorem Carried.follows {all released : String} (h : Carried (.new credential) all released open?)
    (hopen : open? = some stream) : stream.Follows (.new credential) all released := by
  rw [hopen] at h
  exact h

/-- A stream that is closed hands out the rest. -/
theorem ReflectionStream.Follows.carried_finish {all released : String}
    (h : stream.Follows (.new credential) all released) :
    Carried (.new credential) (all ++ "") (released ++ stream.pending) none := by
  rw [String.append_empty]
  exact ⟨h.text, h.clean.1⟩

end Conveying

/-! ### The invariant -/

namespace GenerationAccumulator

/-- The life cycle of a call as the accumulator keeps it. -/
def phase (acc : GenerationAccumulator) (id : ToolCallId) : Phase :=
  if id ∈ acc.activeToolCalls then .active
  else if id ∈ acc.completedToolCalls then .done
  else .fresh

/-- The life cycle of a call as the receiver sees it: a call is over once its channel is
    closed. -/
def shownPhase (channels : Channels) (acc : GenerationAccumulator) (id : ToolCallId) : Phase :=
  if (channels.calls id).isSome then .active
  else if id ∈ acc.completedToolCalls then .done
  else .fresh

theorem phase_congr {acc : GenerationAccumulator}
    (hactv : id ∈ acc'.activeToolCalls ↔ id ∈ acc.activeToolCalls)
    (hcompd : id ∈ acc'.completedToolCalls ↔ id ∈ acc.completedToolCalls) :
    acc'.phase id = acc.phase id :=
  if_congr hactv rfl (if_congr hcompd rfl rfl)

theorem shownPhase_congr {acc : GenerationAccumulator} {channels' : Channels} (hcalls : (channels'.calls id).isSome = (channels.calls id).isSome)
    (hcompd : id ∈ acc'.completedToolCalls ↔ id ∈ acc.completedToolCalls) :
    acc'.shownPhase channels' id = acc.shownPhase channels id :=
  if_congr (by rw [hcalls]) rfl (if_congr hcompd rfl rfl)

/-- The stream of a call: while the call is active, and until its completion is emitted. -/
def stream (acc : GenerationAccumulator) (id : ToolCallId) : Option ReflectionStream :=
  (acc.toolArgumentReflections.lookup id).or
    ((acc.pendingToolCompletions.find? fun completion => completion.1 = id).map Prod.snd)

/-- The channels of an accumulator that is still receiving. -/
def channels (acc : GenerationAccumulator) : Channels :=
  ⟨some acc.textReflection, some acc.reasoningReflection, acc.stream⟩

/-- The emitted events are numbered 1, 2, … and the accumulator knows the last number, as long
    as the numbers fit. -/
def Numbered (acc : GenerationAccumulator) : Prop :=
  acc.emitted.length ≤ u64Max →
    acc.emitted.map ChatEvent.sequence = List.range' 1 acc.emitted.length ∧
      acc.sequence = acc.emitted.length

/-- What holds of the accumulator whatever the channels are doing. -/
structure Log (X : ChatExternals) (credential : Option String) (acc : GenerationAccumulator) :
    Prop where
  guard : acc.credentialGuard = .new credential
  receiver : acc.receiver = none
  numbered : acc.Numbered
  started : acc.emitted.head?.map ChatEvent.kind = some .generationStarted
  names : ∀ event ∈ acc.emitted, ∀ name ∈ event.kind.names X.parseJson,
    (CredentialReflectionGuard.new credential).contains name = false
  states : ∀ state ∈ acc.opaqueReasoningState, ∀ value,
    (CredentialReflectionGuard.new credential).credential = some value →
      opaqueStateContainsExact X state value = false

/-- The accumulator relays the traffic `all`, with some channels still open. -/
structure Relays (X : ChatExternals) (credential : Option String) (all : Traffic)
    (channels : Channels) (acc : GenerationAccumulator) : Prop where
  log : acc.Log X credential
  conveys : Conveys (.new credential) all (emittedTraffic acc.emitted) channels
  shown : acc.text = emittedText acc.emitted
  lifecycle : Tracked emittedCall acc.emitted (acc.shownPhase channels)
  ids : ∀ id, (channels.calls id).isSome = true →
    (CredentialReflectionGuard.new credential).contains id.val = false

/-- The most events one provider event can cause: a chunk for every byte of a fragment and of
    what was held back. -/
def maxEmittedPerEvent : Nat := maxToolArgumentDeltaBytes + maxBorrowedCredentialBytes + 1

/-- The books of the accumulator agree with each other and with what was sent. -/
structure Books (sent : List ProviderEvent) (acc : GenerationAccumulator) : Prop where
  tracked : Tracked ProviderEvent.call? sent acc.phase
  registered : ∀ id, (acc.toolArgumentReflections.lookup id).isSome = true ↔
    id ∈ acc.activeToolCalls
  disjoint : ∀ id ∈ acc.activeToolCalls, id ∉ acc.completedToolCalls
  deferred : ∀ id, id ∈ acc.pendingToolCompletions.map Prod.fst ↔ id ∈ acc.completedToolCalls
  nodup : (acc.pendingToolCompletions.map Prod.fst).Nodup
  emittedBound : acc.emitted.length ≤ 1 + maxEmittedPerEvent * acc.providerEventCount
  deferredBound : acc.pendingToolCompletions.length ≤ acc.providerEventCount
  countBound : acc.providerEventCount ≤ maxGeneratedProviderEvents

/-- **The invariant.** -/
structure Sound (X : ChatExternals) (credential : Option String) (sent : List ProviderEvent)
    (acc : GenerationAccumulator) : Prop where
  relays : acc.Relays X credential (sentTraffic sent) acc.channels
  books : acc.Books sent

variable {X : ChatExternals} {credential : Option String} {acc : GenerationAccumulator}
  {sent : List ProviderEvent} {all : Traffic} {channels : Channels}

theorem Numbered.emitting (h : acc.Numbered) (kind : ChatEventKind) :
    (acc.emitting kind).Numbered := by
  intro hfits
  have hlen : (acc.emitting kind).emitted.length = acc.emitted.length + 1 := by
    simp [GenerationAccumulator.emitting]
  rw [hlen] at hfits
  obtain ⟨hmap, hseq⟩ := h (by omega)
  have hnext : saturatingAdd acc.sequence 1 = acc.emitted.length + 1 := by
    rw [hseq]
    exact saturatingAdd_of_le hfits
  refine ⟨?_, hnext.trans hlen.symm⟩
  rw [hlen, range'_concat, ← hmap]
  simp [GenerationAccumulator.emitting, ChatEvent.new, hnext, add_comm]

/-- An event with clean names may go out at any time. -/
theorem Log.emitting (h : acc.Log X credential)
    (hnames : ∀ name ∈ kind.names X.parseJson,
      (CredentialReflectionGuard.new credential).contains name = false) :
    (acc.emitting kind).Log X credential := by
  refine ⟨h.guard, h.receiver, h.numbered.emitting kind, ?_, ?_, h.states⟩
  · have hstarted := h.started
    show (acc.emitted ++ _).head?.map ChatEvent.kind = _
    cases hemitted : acc.emitted with
    | nil =>
      rw [hemitted] at hstarted
      cases hstarted
    | cons first rest =>
      rw [hemitted] at hstarted
      exact hstarted
  · exact forall_mem_concat.mpr ⟨h.names, hnames⟩

theorem emittedTraffic_emitting (kind : ChatEventKind) :
    emittedTraffic (acc.emitting kind).emitted = emittedTraffic acc.emitted ++ kind.traffic :=
  emittedTraffic_snoc _ _

theorem emittedText_emitting (kind : ChatEventKind) :
    emittedText (acc.emitting kind).emitted = emittedText acc.emitted ++ kind.traffic.text :=
  congrArg Traffic.text (emittedTraffic_emitting kind)

/-! ### How a generation stops -/

/-- The texts of the errors that the core makes itself. -/
def ownMessages : List String :=
  [ credentialReflectionErrorMessage, credentialLimitErrorMessage, outputLimitErrorMessage,
    "generation was cancelled",
    "provider tool-call arguments exceeded the 262144-byte or 131072-character safety limit",
    "provider exceeded the 8192-event generation limit",
    "provider exceeded the 128 tool-call generation limit",
    "provider reused a tool-call identifier",
    "provider sent tool-call arguments outside an active call",
    "provider completed a tool call that was not active",
    "provider tool-call argument stream was unavailable",
    "provider tool-call argument filtering failed",
    "provider generation ended with an incomplete tool call",
    "provider returned opaque reasoning state for a different API family",
    "opaque reasoning state exceeds the 32-item limit",
    "opaque reasoning state size overflow",
    "opaque reasoning state exceeds the 262144-byte limit",
    "opaque reasoning state could not be encoded",
    "opaque reasoning state exceeds the 270336-byte serialized JSON limit",
    "provider returned an oversized failure response",
    "chat event receiver closed" ] ++ requestMessages

/-- A fault that is an error of the core's own. -/
def OwnFault (fault : Fault) : Prop :=
  ∃ error, fault = .error error ∧ error.message ∈ ownMessages

/-- The generation stopped with an error of the core's own, and what went out until then is
    still accounted for. -/
structure Halted (X : ChatExternals) (credential : Option String) (stopped : Stopped) :
    Prop where
  fault : OwnFault stopped.fault
  relays : ∃ all channels, stopped.acc.Relays X credential all channels

/-- The numbers of two more events fit. -/
def InBounds (acc : GenerationAccumulator) : Prop := acc.emitted.length + 2 ≤ u64Max

/-- It also stopped far from the limit of the numbers. -/
structure Stops (X : ChatExternals) (credential : Option String) (stopped : Stopped) : Prop
    extends Halted X credential stopped where
  bounded : stopped.acc.InBounds

theorem Relays.stops (h : acc.Relays X credential all channels) (hbds : acc.InBounds) (hmsg : error.message ∈ ownMessages) :
    Stops X credential (acc.stop error) :=
  ⟨⟨⟨error, rfl, hmsg⟩, all, channels, h⟩, hbds⟩

/-- The books keep the events far from the limit of their numbers. -/
theorem Books.inBounds (h : acc.Books sent) : acc.InBounds := by
  have hemitted := h.emittedBound
  have hcount := h.countBound
  simp only [InBounds, maxEmittedPerEvent, maxToolArgumentDeltaBytes, maxBorrowedCredentialBytes,
    maxGeneratedProviderEvents, u64Max] at *
  omega

theorem Sound.stops (h : acc.Sound X credential sent)
    (hmsg : error.message ∈ ownMessages) : Stops X credential (acc.stop error) :=
  h.relays.stops h.books.inBounds hmsg

theorem Sound.lift {α : Type} {Q : α → Prop} {step : Except Fault α}
    (h : acc.Sound X credential sent) (hstep : Ensures Q OwnFault step) :
    Ensures Q (Stops X credential) (acc.lift step) := by
  cases step with
  | ok value => exact hstep
  | error fault => exact ⟨⟨hstep, _, _, h.relays⟩, h.books.inBounds⟩

theorem mem_ownMessages_reflection :
    (credentialReflectionError X.uuid).message ∈ ownMessages := by
  simp [credentialReflectionError, CoreError.new, ownMessages]

theorem ownFault_reflection : OwnFault (.error (credentialReflectionError X.uuid)) :=
  ⟨_, rfl, mem_ownMessages_reflection⟩

/-! ### Events of the channels -/

section

variable (h : acc.Relays X credential all channels)
include h

/-- Text that is released goes out and is shown. -/
theorem Relays.emitText
    (htext : Carried (.new credential) (all.text ++ delta) (emittedText acc.emitted ++ out) open?) :
    (emitting { acc with text := acc.text ++ out } (.textDelta out)).Relays X credential
      (all ++ .onText delta) { channels with text := open? } := by
  have hlog : Log X credential { acc with text := acc.text ++ out } := { h.log with }
  refine ⟨hlog.emitting fun name hname => (nomatch hname), ?_, ?_, ?_, h.ids⟩
  · rw [emittedTraffic_emitting]
    exact h.conveys.onText htext
  · show acc.text ++ out = emittedText _
    rw [h.shown, emittedText_emitting]
    rfl
  · exact h.lifecycle.skip rfl

theorem Relays.emitReasoning
    (hreas : Carried (.new credential) (all.reasoning ++ delta)
      (emittedReasoning acc.emitted ++ out) open?) :
    (acc.emitting (.reasoningDelta out)).Relays X credential
      (all ++ .onReasoning delta) { channels with reasoning := open? } := by
  refine ⟨h.log.emitting fun name hname => (nomatch hname), ?_, ?_, ?_, h.ids⟩
  · rw [emittedTraffic_emitting]
    exact h.conveys.onReasoning hreas
  · rw [emittedText_emitting]
    show acc.text = emittedText acc.emitted ++ ""
    rw [String.append_empty, h.shown]
  · exact h.lifecycle.skip rfl

/-- A call that nobody has seen is opened. -/
theorem Relays.emitStart
    (name : ToolName) (hclosed : channels.calls id = none) (hnew : id ∉ acc.completedToolCalls)
    (hempty : all.arguments id = "")
    (hid : (CredentialReflectionGuard.new credential).contains id.val = false)
    (hname : (CredentialReflectionGuard.new credential).contains name.val = false) :
    (acc.emitting (.toolCallStarted id name)).Relays X credential all
      { channels with
        calls := update channels.calls id (some (.new (.new credential))) } := by
  have hreleased : (emittedTraffic acc.emitted).arguments id = "" := by
    have hcall := h.conveys.calls id
    rw [hclosed] at hcall
    rw [hcall.1, hempty]
  have hfollows : Carried (.new credential) (all.arguments id ++ "")
      ((emittedTraffic acc.emitted).arguments id ++ "") (some (.new (.new credential))) := by
    rw [hempty, hreleased]
    exact follows_new credential
  refine ⟨h.log.emitting ?_, ?_, ?_, ?_, ?_⟩
  · simp [names, hid, hname]
  · have hsil : (toolCallStarted id name).traffic = .silent := rfl
    have hcon := h.conveys.onCall hfollows
    rw [onCall_empty, append_silent, append_silent] at hcon
    rw [emittedTraffic_emitting, hsil, append_silent]
    exact hcon
  · rw [emittedText_emitting]
    show acc.text = emittedText acc.emitted ++ ""
    rw [String.append_empty, h.shown]
  · have hfresh : (acc.shownPhase channels id).next .opened = some .active := by
      simp [shownPhase, hclosed, hnew, Phase.next]
    refine (h.lifecycle.snoc rfl hfresh).congr fun other => ?_
    by_cases hoth : other = id
    · simp [shownPhase, hoth]
    · rw [update_of_ne hoth]
      exact shownPhase_congr (by simp [hoth]) Iff.rfl
  · intro other hoth
    by_cases heq : other = id
    · rw [heq]
      exact hid
    · exact h.ids other (by simpa [heq] using hoth)

/-- An event of no channel may go out at any time. -/
theorem Relays.emitSilent (hsil : kind.traffic = .silent) (hcall : kind.call? = none)
    (hnames : ∀ name ∈ kind.names X.parseJson,
      (CredentialReflectionGuard.new credential).contains name = false) :
    (acc.emitting kind).Relays X credential all channels := by
  refine ⟨h.log.emitting hnames, ?_, ?_, h.lifecycle.skip hcall, h.ids⟩
  · rw [emittedTraffic_emitting, hsil, append_silent]
    exact h.conveys
  · rw [emittedText_emitting, hsil]
    show acc.text = emittedText acc.emitted ++ ""
    rw [String.append_empty, h.shown]

end

/-- Fragments of an open call go out one after the other. -/
theorem emittingAll_arguments (hlog : acc.Log X credential)
    (hid : (CredentialReflectionGuard.new credential).contains id.val = false) (hlife : Tracked emittedCall acc.emitted phases)
    (hactv : phases id = .active) (deltas : List ToolCallArgumentsDelta) :
    ∃ sequence emitted, acc.emittingAll (deltas.map (toolCallArgumentsDelta id)) =
        { acc with sequence, emitted } ∧
      Log X credential { acc with sequence, emitted } ∧
      emittedTraffic emitted = emittedTraffic acc.emitted ++
        .onCall id (concat (deltas.map val)) ∧
      Tracked emittedCall emitted phases ∧
      emitted.length = acc.emitted.length + deltas.length := by
  induction deltas generalizing acc with
  | nil => exact ⟨acc.sequence, acc.emitted, rfl, hlog, by simp, hlife, rfl⟩
  | cons delta deltas ih =>
    have hlog' : (acc.emitting (.toolCallArgumentsDelta id delta)).Log X credential :=
      hlog.emitting (by simp [names, hid])
    have hnext : (phases id).next .within = some .active := by rw [hactv]; rfl
    have hlife' : Tracked emittedCall
        (acc.emitting (.toolCallArgumentsDelta id delta)).emitted phases := by
      refine (hlife.snoc rfl hnext).congr fun other => ?_
      rw [← hactv, update_eq_self]
    obtain ⟨sequence, emitted, heq, hlog'', htraffic, hlife'', hlen⟩ := ih hlog' hlife'
    refine ⟨sequence, emitted, heq, hlog'', ?_, hlife'', ?_⟩
    · rw [htraffic, emittedTraffic_emitting, traffic_arguments, append_onCall]
      rfl
    · rw [hlen]
      simp [emitting]
      omega

/-- **Arguments.** What a call releases goes out in chunks, and only the log changes. -/
theorem emitFilteredToolArguments_eq (hlog : acc.Log X credential)
    (hid : (CredentialReflectionGuard.new credential).contains id.val = false) (hlife : Tracked emittedCall acc.emitted phases)
    (hactv : phases id = .active) (hctl : hasControl out = false) :
    ∃ sequence emitted,
      acc.emitFilteredToolArguments X id out = .ok { acc with sequence, emitted } ∧
      Log X credential { acc with sequence, emitted } ∧
      emittedTraffic emitted = emittedTraffic acc.emitted ++ .onCall id out ∧
      Tracked emittedCall emitted phases ∧
      emitted.length ≤ acc.emitted.length + byteLen out := by
  obtain ⟨deltas, hchunks, htext, hcount⟩ :=
    emitChunks_eq X id hlog.receiver hctl (le_refl (charCount out))
  obtain ⟨sequence, emitted, heq, hlog', htraffic, hlife', hlen⟩ :=
    emittingAll_arguments hlog hid hlife hactv deltas
  have hbytes := charCount_le_byteLen out
  refine ⟨sequence, emitted, ?_, hlog', ?_, hlife', by omega⟩
  · rw [emitFilteredToolArguments, hchunks, heq]
  · rw [htraffic, htext]

theorem emitFilteredToolArguments_ite (id : ToolCallId) (out : String) :
    (if out = "" then pure acc else acc.emitFilteredToolArguments X id out) =
      acc.emitFilteredToolArguments X id out := by
  by_cases hout : out = ""
  · subst hout
    rfl
  · rw [if_neg hout]

end GenerationAccumulator

end LorePia.Chat
