import LorePia.Chat.Accumulator

namespace LorePia.Chat

open Lib List AList Ensures Function Option ProviderEvent Traffic

/-!
# Chat — one provider event

`forward` keeps the invariant of `Accumulator.lean`.  Each kind of event has its own lemma;
`forward_sound` puts them together: the invariant holds with the event appended to what was
sent, or the generation stops with an error of the core's own, which leaves the account of
what went out as it was.

An event can cause a bounded number of emissions (`Room`), and a generation accepts a bounded
number of events; this is what keeps the sequence numbers far from their limit.
-/

variable {acc' : GenerationAccumulator} {id : ToolCallId}

namespace GenerationAccumulator

variable {X : ChatExternals} {credential : Option String} {acc : GenerationAccumulator}
  {sent : List ProviderEvent} {all : Traffic} {channels : Channels}

/-! ### Books -/

/-- Room for what one more provider event can cause. -/
def Room (acc : GenerationAccumulator) : Prop :=
  acc.emitted.length + maxEmittedPerEvent ≤ 1 + maxEmittedPerEvent * acc.providerEventCount ∧
    acc.pendingToolCompletions.length + 1 ≤ acc.providerEventCount

theorem Room.emitted_snoc (h : acc.Room) :
    (acc.emitted ++ [event]).length ≤ 1 + maxEmittedPerEvent * acc.providerEventCount := by
  have hlen := h.1
  have hmax : 1 ≤ maxEmittedPerEvent := by simp [maxEmittedPerEvent]
  rw [length_append, length_singleton]
  omega

/-- The books of an accumulator whose calls have not changed. -/
theorem Books.keep (h : acc.Books sent) (hactv : acc'.activeToolCalls = acc.activeToolCalls)
    (hcompd : acc'.completedToolCalls = acc.completedToolCalls)
    (hlookup : ∀ id, (acc'.toolArgumentReflections.lookup id).isSome =
      (acc.toolArgumentReflections.lookup id).isSome)
    (hpend : acc'.pendingToolCompletions = acc.pendingToolCompletions)
    (hcount : acc'.providerEventCount = acc.providerEventCount)
    (htracked : Tracked call? sent' acc.phase)
    (hlen : acc'.emitted.length ≤ 1 + maxEmittedPerEvent * acc'.providerEventCount) :
    acc'.Books sent' := by
  refine ⟨htracked.congr fun id => ?_, fun id => ?_, ?_, ?_, ?_, hlen, ?_, hcount ▸ h.countBound⟩
  · rw [phase, phase, hactv, hcompd]
  · rw [hlookup, hactv]
    exact h.registered id
  · rw [hactv, hcompd]
    exact h.disjoint
  · rw [hpend, hcompd]
    exact h.deferred
  · rw [hpend]
    exact h.nodup
  · rw [hpend, hcount]
    exact h.deferredBound

/-- A call has a stream exactly while it is active or its completion is deferred. -/
theorem Books.stream_isSome (h : acc.Books sent) (id : ToolCallId) :
    (acc.stream id).isSome = true ↔ id ∈ acc.activeToolCalls ∨ id ∈ acc.completedToolCalls := by
  rw [stream, isSome_or, Bool.or_eq_true, h.registered, isSome_map, find?_isSome, ← h.deferred]
  simp

theorem push_ensures {stream : ReflectionStream} {all released : String}
    (h : stream.Follows (.new credential) all released) (fragment : String) :
    Ensures
      (fun pushed => pushed.2.Follows (.new credential) (all ++ fragment) (released ++ pushed.1))
      OwnFault (stream.push X.uuid fragment) := by
  refine (push_follows X.uuid h fragment).mono (fun _ hpushed => hpushed) ?_
  rintro _ rfl
  exact ownFault_reflection

section

variable (h : acc.Sound X credential sent)
include h

/-- Counting a delta only moves the counters. -/
theorem trackOutputDelta_sound (hroom : acc.Room) (delta : String) :
    Ensures (fun acc' => acc'.Sound X credential sent ∧ acc'.Room) (Stops X credential)
      (acc.trackOutputDelta X delta) := by
  have hmsg : (outputLimitError X.uuid).message ∈ ownMessages := by
    simp [outputLimitError, CoreError.new, ownMessages]
  unfold trackOutputDelta
  refine (ensures_okOr fun _ => h.stops hmsg).bind fun bytes _ =>
    (ensures_okOr fun _ => h.stops hmsg).bind fun chars _ =>
    (ensures_require fun _ => h.stops hmsg).bind fun _ _ => ?_
  exact ⟨⟨{ h.relays with log := { h.relays.log with } }, { h.books with }⟩, hroom⟩

theorem trackToolArguments_sound (hroom : acc.Room) (delta : String) :
    Ensures (fun acc' => (acc'.Sound X credential sent ∧ acc'.Room) ∧
        acc'.activeToolCalls = acc.activeToolCalls)
      (Stops X credential) (acc.trackToolArguments X delta) := by
  have hmsg : (toolArgumentsLimitError X.uuid).message ∈ ownMessages := by
    simp [toolArgumentsLimitError, toolProtocolError, CoreError.new, ownMessages]
  unfold trackToolArguments
  refine (ensures_okOr fun _ => h.stops hmsg).bind fun bytes _ =>
    (ensures_okOr fun _ => h.stops hmsg).bind fun chars _ =>
    (ensures_require fun _ => h.stops hmsg).bind fun _ _ => ?_
  exact ⟨⟨⟨{ h.relays with log := { h.relays.log with } }, { h.books with }⟩, hroom⟩, rfl⟩

theorem forwardText_sound (hroom : acc.Room) (delta : String) :
    Ensures (fun acc' => acc'.Sound X credential (sent ++ [.textDelta delta]))
      (Stops X credential) (acc.forwardText X delta) := by
  unfold forwardText
  refine (trackOutputDelta_sound h hroom delta).bind fun acc h => ?_
  obtain ⟨h, hroom⟩ := h
  have htracked : Tracked call? (sent ++ [.textDelta delta]) acc.phase := h.books.tracked.skip rfl
  refine (h.lift (push_ensures h.relays.conveys.text delta)).bind fun pushed hpushed => ?_
  refine .ite (fun _ => ?_) (fun hquiet => ?_)
  · rw [emit_of_open]
    case h => exact h.relays.log.receiver
    have hemit := h.relays.emitText (show Carried _ _ _ (some pushed.2) from hpushed)
    refine ⟨?_, h.books.keep rfl rfl (fun _ => rfl) rfl rfl htracked ?_⟩
    · rw [sentTraffic_snoc]
      exact { hemit with log := { hemit.log with } }
    · exact hroom.emitted_snoc
  · -- nothing was released, so nothing goes out
    have hempty : pushed.1 = "" := by
      by_contra hne
      exact hquiet (.inl hne)
    rw [hempty] at hpushed
    have hcon := h.relays.conveys.onText (show Carried _ _ _ (some pushed.2) from hpushed)
    rw [onText_empty, append_silent] at hcon
    refine ⟨?_, h.books.keep rfl rfl (fun _ => rfl) rfl rfl htracked h.books.emittedBound⟩
    rw [sentTraffic_snoc]
    exact { h.relays with log := { h.relays.log with }, conveys := hcon }

theorem forwardReasoning_sound (hroom : acc.Room) (delta : String) :
    Ensures (fun acc' => acc'.Sound X credential (sent ++ [.reasoningDelta delta]))
      (Stops X credential) (acc.forwardReasoning X delta) := by
  unfold forwardReasoning
  refine (trackOutputDelta_sound h hroom delta).bind fun acc h => ?_
  obtain ⟨h, hroom⟩ := h
  have htracked : Tracked call? (sent ++ [.reasoningDelta delta]) acc.phase :=
    h.books.tracked.skip rfl
  refine (h.lift (push_ensures h.relays.conveys.reasoning delta)).bind fun pushed hpushed => ?_
  refine .ite (fun _ => ?_) (fun hquiet => ?_)
  · rw [emit_of_open]
    case h => exact h.relays.log.receiver
    have hemit := h.relays.emitReasoning (show Carried _ _ _ (some pushed.2) from hpushed)
    refine ⟨?_, h.books.keep rfl rfl (fun _ => rfl) rfl rfl htracked ?_⟩
    · rw [sentTraffic_snoc]
      exact { hemit with log := { hemit.log with } }
    · exact hroom.emitted_snoc
  · have hempty : pushed.1 = "" := by
      by_contra hne
      exact hquiet (.inl hne)
    rw [hempty] at hpushed
    have hcon := h.relays.conveys.onReasoning (show Carried _ _ _ (some pushed.2) from hpushed)
    rw [onReasoning_empty, append_silent] at hcon
    refine ⟨?_, h.books.keep rfl rfl (fun _ => rfl) rfl rfl htracked h.books.emittedBound⟩
    rw [sentTraffic_snoc]
    exact { h.relays with log := { h.relays.log with }, conveys := hcon }

end

/-- A stream that is put in for a call is the stream of that call. -/
theorem Relays.of_insert (acc : GenerationAccumulator)
    (h : acc'.Relays X credential all { acc.channels with
      calls := update acc.channels.calls id (some inserted) })
    (htext : acc'.textReflection = acc.textReflection)
    (hreas : acc'.reasoningReflection = acc.reasoningReflection)
    (hreflections : acc'.toolArgumentReflections = acc.toolArgumentReflections.insert id inserted)
    (hpend : acc'.pendingToolCompletions = acc.pendingToolCompletions) :
    acc'.Relays X credential all acc'.channels := by
  have hchannels : acc'.channels = { acc.channels with
      calls := update acc.channels.calls id (some inserted) } := by
    refine Channels.ext (congrArg some htext) (congrArg some hreas) (funext fun other => ?_)
    show acc'.stream other = update acc.stream id (some inserted) other
    rw [stream, hreflections, hpend]
    by_cases hoth : other = id
    · subst hoth
      simp
    · rw [update_of_ne hoth, lookup_insert_ne hoth, stream]
  rw [hchannels]
  exact h

theorem own_toolProtocolError (h : message ∈ ownMessages) :
    (toolProtocolError X.uuid message).message ∈ ownMessages := h

theorem Log.validateToolId (h : acc.Log X credential) (id : ToolCallId) :
    Ensures (fun id' => id' = id ∧
        (CredentialReflectionGuard.new credential).contains id.val = false)
      OwnFault (acc.credentialGuard.validateToolId X id) := by
  rw [h.guard]
  exact .ite (fun hclean => ⟨rfl, hclean⟩) fun _ => ownFault_reflection

theorem Log.validateToolStart (h : acc.Log X credential) (id : ToolCallId) (name : ToolName) :
    Ensures (fun checked => checked = (id, name) ∧
        (CredentialReflectionGuard.new credential).contains id.val = false ∧
        (CredentialReflectionGuard.new credential).contains name.val = false)
      OwnFault (acc.credentialGuard.validateToolStart X id name) := by
  rw [h.guard]
  exact .ite (fun hclean => ⟨rfl, hclean⟩) fun _ => ownFault_reflection

theorem Books.stream_eq_none (h : acc.Books sent)
    (hnew : ¬ (id ∈ acc.activeToolCalls ∨ id ∈ acc.completedToolCalls)) :
    acc.stream id = none := by
  rw [← not_isSome_iff_eq_none, h.stream_isSome]
  exact hnew

theorem forwardToolStart_sound (h : acc.Sound X credential sent) (hroom : acc.Room)
    (id : ToolCallId) (name : ToolName) :
    Ensures (fun acc' => acc'.Sound X credential (sent ++ [.toolCallStarted id name]))
      (Stops X credential) (acc.forwardToolStart X id name) := by
  unfold forwardToolStart
  refine (h.lift (h.relays.log.validateToolStart id name)).bind ?_
  rintro _ ⟨rfl, hid, hname⟩
  refine (ensures_require fun _ => h.stops
      (own_toolProtocolError (by simp [ownMessages]))).bind fun _ _ =>
    (ensures_require fun _ => h.stops
      (own_toolProtocolError (by simp [ownMessages]))).bind fun _ hnew => ?_
  have hphase : acc.phase id = .fresh := by
    rw [not_or] at hnew
    simp [phase, hnew.1, hnew.2]
  have hempty : (sentTraffic sent).arguments id = "" :=
    sentArguments_eq_empty (phaseOf_eq_fresh.mp (hphase ▸ h.books.tracked id))
  have hclosed := h.books.stream_eq_none hnew
  rw [not_or] at hnew
  rw [emit_of_open]
  case h => exact h.relays.log.receiver
  have hemit := h.relays.emitStart name hclosed hnew.2 hempty hid hname
  refine ⟨?_, ?_⟩
  · have hsil : trafficOf (.toolCallStarted id name) = .silent := rfl
    rw [sentTraffic_snoc, hsil, append_silent]
    rw [← h.relays.log.guard] at hemit
    refine Relays.of_insert acc ?_ rfl rfl rfl rfl
    exact { hemit with log := { hemit.log with } }
  · refine ⟨?_, fun other => ?_, ?_, h.books.deferred, h.books.nodup, hroom.emitted_snoc,
      h.books.deferredBound, h.books.countBound⟩
    · have hnext : (acc.phase id).next .opened = some .active := by rw [hphase]; rfl
      refine (h.books.tracked.snoc rfl hnext).congr fun other => ?_
      by_cases hoth : other = id
      · subst hoth
        rw [update_self]
        exact if_pos (Finset.mem_insert_self _ _)
      · rw [update_of_ne hoth]
        exact phase_congr (Finset.mem_insert.trans (or_iff_right hoth)) Iff.rfl
    · show (lookup other (acc.toolArgumentReflections.insert id _)).isSome = true ↔
        other ∈ insert id acc.activeToolCalls
      by_cases hoth : other = id
      · subst hoth
        simp
      · rw [lookup_insert_ne hoth, h.books.registered, Finset.mem_insert, or_iff_right hoth]
    · intro other hoth
      rcases Finset.mem_insert.mp hoth with rfl | hoth
      · exact hnew.2
      · exact h.books.disjoint other hoth

theorem forwardToolArguments_sound (h : acc.Sound X credential sent) (hroom : acc.Room)
    (hcred : ∀ value ∈ credential, byteLen value ≤ maxBorrowedCredentialBytes)
    (id : ToolCallId) (delta : ToolCallArgumentsDelta) :
    Ensures (fun acc' => acc'.Sound X credential (sent ++ [.toolCallArgumentsDelta id delta]))
      (Stops X credential) (acc.forwardToolArguments X id delta) := by
  unfold forwardToolArguments
  refine (h.lift (h.relays.log.validateToolId id)).bind ?_
  rintro id ⟨rfl, hid⟩
  refine (ensures_require fun _ => ?_).bind fun _ hactv => ?_
  · refine h.stops ?_
    split
    · exact mem_ownMessages_reflection
    · exact own_toolProtocolError (by simp [ownMessages])
  refine (trackToolArguments_sound h hroom delta.val).bind fun acc' h' => ?_
  obtain ⟨⟨h, hroom⟩, hsame⟩ := h'
  rw [← hsame] at hactv
  refine (ensures_okOr fun _ => h.stops
    (own_toolProtocolError (by simp [ownMessages]))).bind fun stream hlookup => ?_
  have hstrm : acc'.channels.calls id = some stream := by
    simp [channels, GenerationAccumulator.stream, hlookup]
  have hcall : stream.Follows (.new credential) (sentArguments id sent)
      (emittedArguments id acc'.emitted) := (h.relays.conveys.calls id).follows hstrm
  refine (h.lift (push_ensures hcall delta.val)).bind fun pushed hpushed => ?_
  rw [emitFilteredToolArguments_ite]
  have hopen : (acc'.channels.calls id).isSome = true := (h.books.stream_isSome id).mpr (.inl hactv)
  have hctl : hasControl pushed.1 = false := by
    have hall : hasControl (sentArguments id sent ++ delta.val) = false := by
      rw [hasControl_append, hasControl_sentArguments, hasControl_delta]
      rfl
    rw [← hpushed.text, hasControl_append, hasControl_append, Bool.or_eq_false_iff,
      Bool.or_eq_false_iff] at hall
    exact hall.1.2
  have hlog : Log X credential { acc' with
      toolArgumentReflections := acc'.toolArgumentReflections.insert id pushed.2 } :=
    { h.relays.log with }
  obtain ⟨sequence, emitted, heq, hlog', htraffic, hlife, hlen⟩ :=
    emitFilteredToolArguments_eq hlog hid h.relays.lifecycle (if_pos hopen) hctl
  rw [heq]
  refine ⟨Relays.of_insert acc' ⟨{ hlog' with }, ?_, ?_, ?_, ?_⟩ rfl rfl rfl rfl, ?_⟩
  · rw [sentTraffic_snoc, trafficOf_arguments]
    show Conveys _ _ (emittedTraffic emitted) _
    rw [htraffic]
    exact h.relays.conveys.onCall hpushed
  · have htext := congrArg Traffic.text htraffic
    show acc'.text = emittedText emitted
    rw [h.relays.shown]
    exact (htext.trans String.append_empty).symm
  · refine hlife.congr fun other => shownPhase_congr ?_ Iff.rfl
    by_cases hoth : other = id
    · subst hoth
      simp [hopen]
    · simp [hoth]
  · intro other hoth
    by_cases heq : other = id
    · rw [heq]
      exact hid
    · exact h.relays.ids other (by simpa [heq] using hoth)
  · refine h.books.keep rfl rfl (fun other => ?_) rfl rfl ?_ ?_
    · by_cases hoth : other = id
      · subst hoth
        simp [hlookup]
      · simp [hoth]
    · have hphase : acc'.phase id = .active := if_pos hactv
      have hnext : (acc'.phase id).next .within = some .active := by rw [hphase]; rfl
      refine (h.books.tracked.snoc rfl hnext).congr fun other => ?_
      rw [← hphase, update_eq_self]
    · have hheld := hcall.pending_le hcred
      have hdelta := byteLen_delta_le delta
      have hbytes := congrArg byteLen hpushed.text
      have hbytes' := congrArg byteLen hcall.text
      have hroom := hroom.1
      rw [byteLen_append, byteLen_append, byteLen_append] at hbytes
      rw [byteLen_append] at hbytes'
      show emitted.length ≤ 1 + maxEmittedPerEvent * acc'.providerEventCount
      have hmax : maxEmittedPerEvent =
        maxToolArgumentDeltaBytes + maxBorrowedCredentialBytes + 1 := rfl
      have hlen : emitted.length ≤ acc'.emitted.length + byteLen pushed.1 := hlen
      omega

/-- A completed call keeps its stream, which only changes places. -/
theorem stream_complete (h : acc.Books sent) (hactv : id ∈ acc.activeToolCalls)
    (hlookup : acc.toolArgumentReflections.lookup id = some reflection)
    (hreflections : acc'.toolArgumentReflections = acc.toolArgumentReflections.erase id)
    (hpend : acc'.pendingToolCompletions =
      acc.pendingToolCompletions ++ [(id, reflection)]) : acc'.stream = acc.stream := by
  funext other
  rw [stream, stream, hreflections, hpend, find?_append]
  by_cases hoth : other = id
  · subst hoth
    have habsent : acc.pendingToolCompletions.find? (fun completion => completion.1 = other) =
        none := by
      rw [List.find?_eq_none]
      intro completion hcompletion heq
      have hcompd := (h.deferred completion.1).mp (mem_map_of_mem hcompletion)
      rw [of_decide_eq_true heq] at hcompd
      exact h.disjoint other hactv hcompd
    rw [lookup_erase, hlookup, habsent]
    simp
  · rw [lookup_erase_ne hoth]
    have hskip : [(id, reflection)].find? (fun completion => completion.1 = other) = none := by
      simp [Ne.symm hoth]
    rw [hskip, or_none]

theorem completeToolCall_sound (h : acc.Sound X credential sent) (hroom : acc.Room)
    (id : ToolCallId) :
    Ensures (fun acc' => acc'.Sound X credential (sent ++ [.toolCallCompleted id]))
      (Stops X credential) (acc.completeToolCall X id) := by
  unfold completeToolCall
  refine (h.lift (h.relays.log.validateToolId id)).bind ?_
  rintro id ⟨rfl, hid⟩
  refine (ensures_require fun _ => h.stops
    (own_toolProtocolError (by simp [ownMessages]))).bind fun _ hactv => ?_
  have hreg := (h.books.registered id).mpr hactv
  refine (ensures_okOr fun hnone => ?_).bind fun reflection hlookup => ?_
  · -- an active call has a stream
    have hnone : acc.toolArgumentReflections.lookup id = none := hnone
    rw [hnone] at hreg
    cases hreg
  have hlookup : acc.toolArgumentReflections.lookup id = some reflection := hlookup
  have hnew : id ∉ acc.completedToolCalls := h.books.disjoint id hactv
  have hphase : acc.phase id = .active := if_pos hactv
  refine ⟨?_, ?_⟩
  · have hsil : trafficOf (.toolCallCompleted id) = .silent := rfl
    have hchannels : channels { acc with
        activeToolCalls := acc.activeToolCalls.erase id
        toolArgumentReflections := acc.toolArgumentReflections.erase id
        completedToolCalls := insert id acc.completedToolCalls
        pendingToolCompletions := acc.pendingToolCompletions ++ [(id, reflection)] } =
        acc.channels :=
      Channels.ext rfl rfl (stream_complete h.books hactv hlookup rfl rfl)
    rw [sentTraffic_snoc, hsil, append_silent]
    show Relays X credential (sentTraffic sent) (channels { acc with
        activeToolCalls := acc.activeToolCalls.erase id
        toolArgumentReflections := acc.toolArgumentReflections.erase id
        completedToolCalls := insert id acc.completedToolCalls
        pendingToolCompletions := acc.pendingToolCompletions ++ [(id, reflection)] }) _
    rw [hchannels]
    refine { h.relays with log := { h.relays.log with }, lifecycle := ?_ }
    refine h.relays.lifecycle.congr fun other => ?_
    by_cases hoth : other = id
    · -- the completion is deferred, so the receiver still sees an open call
      subst hoth
      have hopen : (acc.channels.calls other).isSome = true :=
        (h.books.stream_isSome other).mpr (.inl hactv)
      rw [shownPhase, shownPhase, if_pos hopen, if_pos hopen]
    · exact shownPhase_congr rfl (Finset.mem_insert.trans (or_iff_right hoth))
  · refine ⟨?_, fun other => ?_, ?_, fun other => ?_, ?_, h.books.emittedBound, ?_,
      h.books.countBound⟩
    · have hnext : (acc.phase id).next .closed = some .done := by rw [hphase]; rfl
      refine (h.books.tracked.snoc rfl hnext).congr fun other => ?_
      by_cases hoth : other = id
      · subst hoth
        rw [update_self]
        refine (if_neg ?_).trans (if_pos (Finset.mem_insert_self _ _))
        simp
      · rw [update_of_ne hoth]
        exact phase_congr (Finset.mem_erase.trans (and_iff_right hoth))
          (Finset.mem_insert.trans (or_iff_right hoth))
    · show (lookup other (acc.toolArgumentReflections.erase id)).isSome = true ↔
        other ∈ acc.activeToolCalls.erase id
      by_cases hoth : other = id
      · subst hoth
        simp
      · rw [lookup_erase_ne hoth, h.books.registered, Finset.mem_erase, and_iff_right hoth]
    · intro other hoth hcompd
      obtain ⟨hne, hoth⟩ := Finset.mem_erase.mp hoth
      rcases Finset.mem_insert.mp hcompd with rfl | hcompd
      · exact hne rfl
      · exact h.books.disjoint other hoth hcompd
    · show other ∈ (acc.pendingToolCompletions ++ [(id, reflection)]).map Prod.fst ↔
        other ∈ insert id acc.completedToolCalls
      rw [map_append, mem_append, h.books.deferred, Finset.mem_insert]
      simp [or_comm]
    · show ((acc.pendingToolCompletions ++ [(id, reflection)]).map Prod.fst).Nodup
      rw [map_append, nodup_append]
      refine ⟨h.books.nodup, by simp, ?_⟩
      intro other hoth last hlast heq
      rw [h.books.deferred] at hoth
      simp only [map_cons, map_nil, mem_singleton] at hlast
      exact hnew (by rw [← hlast, ← heq]; exact hoth)
    · show (acc.pendingToolCompletions ++ [(id, reflection)]).length ≤ acc.providerEventCount
      rw [length_append, length_singleton]
      exact hroom.2

/-- Why states of reasoning are refused. -/
def opaqueReasons : List String :=
  [ "opaque reasoning state exceeds the 32-item limit",
    "opaque reasoning state size overflow",
    "opaque reasoning state exceeds the 262144-byte limit",
    "opaque reasoning state could not be encoded",
    "opaque reasoning state exceeds the 270336-byte serialized JSON limit" ]

theorem validateOpaqueReasoningStates_reasons (sizes : ReasoningSizes)
    (states : List OpaqueReasoningState) :
    Ensures (fun _ => True) (fun reason => reason ∈ opaqueReasons)
      (validateOpaqueReasoningStates sizes states) := by
  have hsum (total : Nat) (states : List OpaqueReasoningState) :
      Ensures (fun _ => True) (fun reason => reason ∈ opaqueReasons)
        (sumReasoningBytes sizes total states) := by
    induction states generalizing total with
    | nil => exact trivial
    | cons state states ih =>
      unfold sumReasoningBytes
      exact (ensures_require fun _ => by simp [opaqueReasons]).bind fun _ _ =>
        (ensures_require fun _ => by simp [opaqueReasons]).bind fun _ _ => ih _
  unfold validateOpaqueReasoningStates
  exact (ensures_require fun _ => by simp [opaqueReasons]).bind fun _ _ =>
    (hsum 0 states).bind fun _ _ =>
    (ensures_okOr fun _ => by simp [opaqueReasons]).bind fun _ _ =>
    (ensures_require fun _ => by simp [opaqueReasons]).mono (fun _ _ => trivial) fun _ h => h

theorem validateOpaqueStateFamily_ensures (state : OpaqueReasoningState)
    (family : Option ApiFamily) :
    Ensures (fun state' => state' = state) OwnFault (validateOpaqueStateFamily X state family) := by
  unfold validateOpaqueStateFamily
  split
  case h_5 => exact ⟨_, rfl, by simp [CoreError.new, ownMessages]⟩
  all_goals exact rfl

theorem Log.validateOpaqueState (h : acc.Log X credential) (state : OpaqueReasoningState) :
    Ensures (fun state' => state' = state ∧ ∀ value,
        (CredentialReflectionGuard.new credential).credential = some value →
          opaqueStateContainsExact X state value = false)
      OwnFault (acc.credentialGuard.validateOpaqueState X state) := by
  rw [h.guard]
  unfold CredentialReflectionGuard.validateOpaqueState
  cases hvalue : (CredentialReflectionGuard.new credential).credential with
  | none => exact ⟨rfl, fun value hsome => nomatch hsome⟩
  | some value =>
    refine .ite (fun _ => ownFault_reflection) fun hclean => ⟨rfl, ?_⟩
    rintro _ ⟨⟩
    exact eq_false_of_ne_true hclean

theorem forwardOpaqueState_sound (h : acc.Sound X credential sent) (state : OpaqueReasoningState) :
    Ensures (fun acc' => acc'.Sound X credential (sent ++ [.opaqueReasoningState state]))
      (Stops X credential) (acc.forwardOpaqueState X state) := by
  have hsil : trafficOf (.opaqueReasoningState state) = .silent := rfl
  have htracked : Tracked call? (sent ++ [.opaqueReasoningState state]) acc.phase :=
    h.books.tracked.skip rfl
  unfold forwardOpaqueState
  refine (h.lift (h.relays.log.validateOpaqueState state)).bind ?_
  rintro state ⟨rfl, hclean⟩
  refine .ite (fun _ => ?_) fun _ => ?_
  · refine (h.lift (validateOpaqueStateFamily_ensures state acc.providerFamily)).bind ?_
    rintro state rfl
    refine .bind (Q := fun _ => True) ?_ fun _ _ => ?_
    · cases hstates : validateOpaqueReasoningStates X.sizes
          (acc.opaqueReasoningState ++ [state]) with
      | ok u => exact trivial
      | error reason =>
        have hown : ∀ reason ∈ opaqueReasons, reason ∈ ownMessages := by decide
        exact h.stops (hown _ ((validateOpaqueReasoningStates_reasons _ _).of_error hstates))
    · refine ⟨?_, h.books.keep rfl rfl (fun _ => rfl) rfl rfl htracked h.books.emittedBound⟩
      rw [sentTraffic_snoc, hsil, append_silent]
      refine { h.relays with log := { h.relays.log with states := ?_ } }
      exact forall_mem_concat.mpr ⟨h.relays.log.states, hclean⟩
  · refine ⟨?_, h.books.keep rfl rfl (fun _ => rfl) rfl rfl htracked h.books.emittedBound⟩
    rw [sentTraffic_snoc, hsil, append_silent]
    exact h.relays

theorem dispatch_sound (h : acc.Sound X credential sent) (hroom : acc.Room)
    (hcred : ∀ value ∈ credential, byteLen value ≤ maxBorrowedCredentialBytes)
    (event : ProviderEvent) :
    Ensures (fun acc' => acc'.Sound X credential (sent ++ [event])) (Stops X credential)
      (dispatch X event acc) := by
  cases event with
  | textDelta delta => exact forwardText_sound h hroom delta
  | reasoningDelta delta => exact forwardReasoning_sound h hroom delta
  | opaqueReasoningState state => exact forwardOpaqueState_sound h state
  | toolCallStarted id name => exact forwardToolStart_sound h hroom id name
  | toolCallArgumentsDelta id delta => exact forwardToolArguments_sound h hroom hcred id delta
  | toolCallCompleted id => exact completeToolCall_sound h hroom id

/-- **One provider event** keeps the invariant, or stops the generation with an error of the
    core's own. -/
theorem forward_sound (h : acc.Sound X credential sent)
    (hcred : ∀ value ∈ credential, byteLen value ≤ maxBorrowedCredentialBytes)
    (event : ProviderEvent) :
    Ensures (fun acc' => acc'.Sound X credential (sent ++ [event])) (Stops X credential)
      (acc.forward X event) := by
  have hmsg : (providerEventLimitError X.uuid).message ∈ ownMessages := by
    simp [providerEventLimitError, toolProtocolError, CoreError.new, ownMessages]
  unfold forward
  refine (ensures_okOr fun _ => h.stops hmsg).bind fun count hcount => ?_
  obtain ⟨_, rfl⟩ := checkedAdd_eq_some.mp hcount
  have hrelays : Relays X credential (sentTraffic sent) acc.channels
      { acc with providerEventCount := acc.providerEventCount + 1 } :=
    { h.relays with log := { h.relays.log with } }
  refine (ensures_require fun _ => hrelays.stops h.books.inBounds hmsg).bind fun _ hbd => ?_
  have hemitted := h.books.emittedBound
  have hdeferred := h.books.deferredBound
  have hmul : maxEmittedPerEvent * (acc.providerEventCount + 1) =
      maxEmittedPerEvent * acc.providerEventCount + maxEmittedPerEvent := Nat.mul_succ _ _
  have hroom : Room { acc with providerEventCount := acc.providerEventCount + 1 } := by
    show acc.emitted.length + maxEmittedPerEvent ≤
        1 + maxEmittedPerEvent * (acc.providerEventCount + 1) ∧
      acc.pendingToolCompletions.length + 1 ≤ acc.providerEventCount + 1
    omega
  have hbooks : Books sent { acc with providerEventCount := acc.providerEventCount + 1 } := by
    refine ⟨h.books.tracked, h.books.registered, h.books.disjoint, h.books.deferred,
      h.books.nodup, ?_, Nat.le_succ_of_le hdeferred, hbd⟩
    show acc.emitted.length ≤ 1 + maxEmittedPerEvent * (acc.providerEventCount + 1)
    omega
  exact dispatch_sound ⟨hrelays, hbooks⟩ hroom hcred event

end GenerationAccumulator

end LorePia.Chat
