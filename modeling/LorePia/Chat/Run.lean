import LorePia.Chat.Forward

namespace LorePia.Chat

open Lib List ChatEventKind CredentialReflectionGuard Ensures Function GenerationAccumulator Nat
  Option Prod ReflectionStream Traffic

/-!
# Chat — a whole generation

What holds of the accumulator at the end of `run_generation`, for every schedule.  The end of
the streams closes every channel (`finishPublicStreams_closed`); the loop and the queue keep
the invariant of `Accumulator.lean` (`collectProviderEvents_collected`).  `generate_ensures` says
how a generation ends: with all channels closed and the usage behind them, or stopped with
what went out accounted for.
-/

variable {channels : Channels} {completions : List (ToolCallId × ReflectionStream)}
  {id : ToolCallId} {stream : ReflectionStream}

namespace GenerationAccumulator

variable {X : ChatExternals} {credential : Option String} {acc : GenerationAccumulator}
  {sent : List ProviderEvent} {all : Traffic}

/-! ### The end of the streams -/

/-- Nothing is held back any more. -/
def closed : Channels := ⟨none, none, fun _ => none⟩

/-- The streams of deferred completions. -/
def callsOf (completions : List (ToolCallId × ReflectionStream)) (id : ToolCallId) :
    Option ReflectionStream :=
  (completions.find? fun completion => completion.1 = id).map Prod.snd

/-- The channels while the deferred completions are worked off. -/
def deferredChannels (completions : List (ToolCallId × ReflectionStream)) : Channels :=
  ⟨none, none, callsOf completions⟩

/-- Finishing steps leave the calls and the deferred completions alone. -/
structure SameCalls (acc acc' : GenerationAccumulator) : Prop where
  completed : acc'.completedToolCalls = acc.completedToolCalls
  deferred : acc'.pendingToolCompletions = acc.pendingToolCompletions

theorem finishText_closed (h : acc.Relays X credential all channels)
    (htext : channels.text = some acc.textReflection) :
    Ensures (fun acc' => acc'.Relays X credential all { channels with text := none } ∧
        SameCalls acc acc' ∧ acc'.reasoningReflection = acc.reasoningReflection ∧
        acc'.emitted.length ≤ acc.emitted.length + 1)
      (fun _ => False) (acc.finishText X) := by
  have hrest := (h.conveys.text.follows htext).carried_finish
  unfold finishText
  refine .ite (fun hempty => ?_) fun _ => ?_
  · have hempty : acc.textReflection.pending = "" := hempty
    rw [hempty] at hrest
    have hcon := h.conveys.onText hrest
    rw [onText_empty, append_silent, append_silent] at hcon
    exact ⟨{ h with log := { h.log with }, conveys := hcon }, ⟨rfl, rfl⟩, rfl, le_succ _⟩
  · rw [emit_of_open, ok_bind]
    case h => exact h.log.receiver
    have hemit := h.emitText hrest
    rw [onText_empty, append_silent] at hemit
    refine ⟨{ hemit with log := { hemit.log with } }, ⟨rfl, rfl⟩, rfl, ?_⟩
    show (acc.emitted ++ _).length ≤ _
    rw [length_append, length_singleton]

theorem finishReasoning_closed (h : acc.Relays X credential all channels)
    (hreas : channels.reasoning = some acc.reasoningReflection) :
    Ensures (fun acc' => acc'.Relays X credential all { channels with reasoning := none } ∧
        SameCalls acc acc' ∧ acc'.emitted.length ≤ acc.emitted.length + 1)
      (fun _ => False) (acc.finishReasoning X) := by
  have hrest := (h.conveys.reasoning.follows hreas).carried_finish
  unfold finishReasoning
  refine .ite (fun hempty => ?_) fun _ => ?_
  · have hempty : acc.reasoningReflection.pending = "" := hempty
    rw [hempty] at hrest
    have hcon := h.conveys.onReasoning hrest
    rw [onReasoning_empty, append_silent, append_silent] at hcon
    exact ⟨{ h with log := { h.log with }, conveys := hcon }, ⟨rfl, rfl⟩, le_succ _⟩
  · rw [emit_of_open]
    case h => exact h.log.receiver
    have hemit := h.emitReasoning hrest
    rw [onReasoning_empty, append_silent] at hemit
    refine ⟨{ hemit with log := { hemit.log with } }, ⟨rfl, rfl⟩, ?_⟩
    show (acc.emitted ++ _).length ≤ _
    rw [length_append, length_singleton]

/-- The most events one deferred completion can cause. -/
def maxEmittedPerCompletion : Nat := maxBorrowedCredentialBytes + 1

/-- **One deferred completion.** What its stream holds goes out, then the call is closed. -/
theorem finishCompletion_closed (h : acc.Relays X credential all channels)
    (hcred : ∀ value ∈ credential, byteLen value ≤ maxBorrowedCredentialBytes)
    (hcall : channels.calls id = some stream) (hcompd : id ∈ acc.completedToolCalls)
    (hctl : hasControl (all.arguments id) = false) :
    Ensures (fun acc' => acc'.Relays X credential all
          { channels with calls := update channels.calls id none } ∧
        SameCalls acc acc' ∧
        acc'.emitted.length ≤ acc.emitted.length + maxEmittedPerCompletion)
      (fun _ => False) (acc.finishCompletion X (id, stream)) := by
  have hopen := (h.conveys.calls id).follows hcall
  have hisSome : (channels.calls id).isSome = true := by rw [hcall]; rfl
  have hid := h.ids id hisSome
  have hheld : hasControl stream.pending = false := by
    rw [← hopen.text, hasControl_append, Bool.or_eq_false_iff] at hctl
    exact hctl.2
  have hactv : acc.shownPhase channels id = .active := if_pos hisSome
  obtain ⟨sequence, emitted, heq, hlog, htraffic, hlife, hlen⟩ :=
    emitFilteredToolArguments_eq h.log hid h.lifecycle hactv hheld
  have hfinish : acc.finishCompletion X (id, stream) =
      .ok (emitting { acc with sequence, emitted } (.toolCallCompleted id)) := by
    unfold finishCompletion
    by_cases hempty : stream.pending = ""
    · -- nothing is held, and emitting nothing changes nothing
      have hsame : acc = { acc with sequence, emitted } := by
        rw [hempty] at heq
        exact Except.ok.inj heq
      simp only [finish, hempty, if_true, pure_ok, ok_bind]
      rw [← hsame, emit_of_open h.log.receiver]
    · simp only [finish, hempty, if_false, heq, ok_bind]
      rw [emit_of_open hlog.receiver]
  rw [hfinish]
  refine ⟨⟨hlog.emitting (by simp [names, hid]), ?_, ?_, ?_, ?_⟩, ⟨rfl, rfl⟩, ?_⟩
  · have hsil : (toolCallCompleted id).traffic = .silent := rfl
    have hcon := h.conveys.onCall hopen.carried_finish
    rw [onCall_empty, append_silent] at hcon
    rw [emittedTraffic_emitting, hsil, append_silent]
    show Conveys _ _ (emittedTraffic emitted) _
    rw [htraffic]
    exact hcon
  · have htext := congrArg Traffic.text htraffic
    rw [emittedText_emitting]
    show acc.text = emittedText emitted ++ ""
    rw [String.append_empty, h.shown]
    exact (htext.trans String.append_empty).symm
  · have hnext : (acc.shownPhase channels id).next .closed = some .done := by rw [hactv]; rfl
    refine (hlife.snoc rfl hnext).congr fun other => ?_
    by_cases hoth : other = id
    · subst hoth
      rw [update_self]
      refine (if_neg ?_).trans (if_pos hcompd)
      simp
    · rw [update_of_ne hoth]
      exact shownPhase_congr (by simp [hoth]) Iff.rfl
  · intro other hoth
    by_cases heq : other = id
    · rw [heq]
      exact hid
    · exact h.ids other (by simpa [heq] using hoth)
  · have hpend := hopen.pending_le hcred
    show (emitted ++ _).length ≤ _
    rw [length_append, length_singleton, maxEmittedPerCompletion]
    omega

/-- Once its completion is out, a call has no stream left. -/
theorem update_callsOf (hnew : id ∉ completions.map fst) :
    update (callsOf ((id, stream) :: completions)) id none = callsOf completions := by
  funext other
  by_cases hoth : other = id
  · subst hoth
    rw [update_self, callsOf, eq_comm, map_eq_none_iff, List.find?_eq_none]
    intro completion hcompletion heq
    exact hnew (of_decide_eq_true heq ▸ mem_map_of_mem hcompletion)
  · rw [update_of_ne hoth, callsOf, callsOf, find?_cons_of_neg]
    simpa using Ne.symm hoth

theorem finishCompletions_closed (h : acc.Relays X credential all (deferredChannels completions))
    (hcred : ∀ value ∈ credential, byteLen value ≤ maxBorrowedCredentialBytes)
    (hnodup : (completions.map fst).Nodup)
    (hcompd : ∀ id ∈ completions.map fst, id ∈ acc.completedToolCalls)
    (hctl : ∀ id, hasControl (all.arguments id) = false) :
    Ensures (fun acc' => acc'.Relays X credential all closed ∧
        acc'.emitted.length ≤ acc.emitted.length + maxEmittedPerCompletion * completions.length)
      (fun _ => False) (finishCompletions X completions acc) := by
  induction completions generalizing acc with
  | nil => exact ⟨h, le_refl _⟩
  | cons completion completions ih =>
    obtain ⟨id, stream⟩ := completion
    rw [map_cons, nodup_cons] at hnodup
    have hcall : (deferredChannels ((id, stream) :: completions)).calls id = some stream := by
      simp [deferredChannels, callsOf]
    unfold finishCompletions
    refine (finishCompletion_closed h hcred hcall (hcompd id (by simp))
      (hctl id)).bind fun acc' hacc' => ?_
    obtain ⟨hrelays, hsame, hlen⟩ := hacc'
    have hchannels : { deferredChannels ((id, stream) :: completions) with
        calls := update (callsOf ((id, stream) :: completions)) id none } =
        deferredChannels completions :=
      Channels.ext rfl rfl (update_callsOf hnodup.1)
    have hrelays : acc'.Relays X credential all (deferredChannels completions) := by
      rw [← hchannels]
      exact hrelays
    have hcompd' : ∀ other ∈ completions.map fst, other ∈ acc'.completedToolCalls := by
      intro other hoth
      rw [hsame.completed]
      exact hcompd other (mem_cons_of_mem _ hoth)
    refine (ih hrelays hnodup.2 hcompd').mono (fun last hlast => ⟨hlast.1, ?_⟩) fun _ h => h
    have hlast := hlast.2
    rw [length_cons, mul_succ]
    omega

/-- **The end of the streams.** With no call open, everything that was held back goes out, and
    nothing can fail. -/
theorem finishPublicStreams_closed (h : acc.Sound X credential sent)
    (hcred : ∀ value ∈ credential, byteLen value ≤ maxBorrowedCredentialBytes)
    (hidle : acc.activeToolCalls = ∅) :
    Ensures (fun acc' => acc'.Relays X credential (sentTraffic sent) closed ∧
        acc'.emitted.length ≤ acc.emitted.length + 2 +
          maxEmittedPerCompletion * acc.pendingToolCompletions.length)
      (fun _ => False) (acc.finishPublicStreams X) := by
  have hstrm : acc.stream = callsOf acc.pendingToolCompletions := by
    funext id
    have hnone : acc.toolArgumentReflections.lookup id = none := by
      rw [← not_isSome_iff_eq_none, h.books.registered, hidle]
      exact Finset.notMem_empty id
    rw [stream, hnone, none_or, callsOf]
  unfold finishPublicStreams
  refine (finishText_closed h.relays rfl).bind fun acc₁ h₁ => ?_
  obtain ⟨h₁, hsame₁, hreas, hlen₁⟩ := h₁
  refine (finishReasoning_closed h₁ (congrArg some hreas.symm)).bind fun acc₂ h₂ => ?_
  obtain ⟨h₂, hsame₂, hlen₂⟩ := h₂
  have hpend : acc₂.pendingToolCompletions = acc.pendingToolCompletions :=
    hsame₂.deferred.trans hsame₁.deferred
  have hcompd : acc₂.completedToolCalls = acc.completedToolCalls :=
    hsame₂.completed.trans hsame₁.completed
  have hrelays : Relays X credential (sentTraffic sent)
      (deferredChannels acc₂.pendingToolCompletions) { acc₂ with pendingToolCompletions := [] } := by
    have hchannels : deferredChannels acc₂.pendingToolCompletions = ⟨none, none, acc.stream⟩ := by
      rw [deferredChannels, hpend, hstrm]
    rw [hchannels]
    exact { h₂ with log := { h₂.log with } }
  refine (finishCompletions_closed hrelays hcred ?_ ?_ ?_).mono ?_ fun _ h => h
  · rw [hpend]
    exact h.books.nodup
  · intro id hid
    rw [hpend, h.books.deferred] at hid
    exact hcompd ▸ hid
  · exact fun id => hasControl_sentArguments id sent
  · rintro acc₃ ⟨h₃, hlen₃⟩
    refine ⟨h₃, ?_⟩
    rw [hpend] at hlen₃
    have hlen₃ : acc₃.emitted.length ≤ acc₂.emitted.length +
      maxEmittedPerCompletion * acc.pendingToolCompletions.length := hlen₃
    omega

end GenerationAccumulator

/-! ### The loop and the queue -/

/-- The provider events that the loop receives, while the queue is open. -/
def received : Bool → List Tick → List ProviderEvent
  | _, [] => []
  | true, .event event :: ticks => event :: received true ticks
  | false, .event _ :: ticks => received false ticks
  | _, .providerClosed :: ticks => received false ticks
  | providerOpen, .cancellationChanged _ :: ticks => received providerOpen ticks
  | providerOpen, .cancellationClosed :: ticks => received providerOpen ticks

/-- Whether the queue is still open after the loop. -/
def staysOpen : Bool → List Tick → Bool
  | providerOpen, [] => providerOpen
  | _, .providerClosed :: ticks => staysOpen false ticks
  | providerOpen, .event _ :: ticks => staysOpen providerOpen ticks
  | providerOpen, .cancellationChanged _ :: ticks => staysOpen providerOpen ticks
  | providerOpen, .cancellationClosed :: ticks => staysOpen providerOpen ticks

/-- What the provider sent in the whole run. -/
def Schedule.provided (schedule : Schedule) : List ProviderEvent :=
  received true schedule.ticks ++ if staysOpen true schedule.ticks then schedule.queued else []

section Collecting

open GenerationAccumulator

variable {X : ChatExternals} {credential : Option String} {acc : GenerationAccumulator}
  {sent : List ProviderEvent}

/-- **The loop** keeps the invariant for what it has received: everything, unless it was
    cancelled. -/
theorem collectLoop_sound (result : CoreResult GenerationUsage) (ticks : List Tick)
    (cancellationOpen providerOpen : Bool)
    (hcred : ∀ value ∈ credential, byteLen value ≤ maxBorrowedCredentialBytes)
    (h : acc.Sound X credential sent) :
    Ensures (fun out => ∃ sent', out.1.Sound X credential sent' ∧
        (out.2.1 = .error (cancelledError X.uuid) ∨
          out.2.1 = result ∧ sent' = sent ++ received providerOpen ticks ∧
            out.2.2 = staysOpen providerOpen ticks))
      (Stops X credential)
      (collectLoop X result ticks cancellationOpen providerOpen acc) := by
  induction ticks generalizing acc sent cancellationOpen providerOpen with
  | nil => exact ⟨sent, h, .inr ⟨rfl, (append_nil sent).symm, rfl⟩⟩
  | cons tick ticks ih =>
    cases tick with
    | cancellationChanged cancelled =>
      unfold collectLoop
      refine .ite (fun _ => ⟨sent, h, .inl rfl⟩) fun _ => ?_
      exact ih cancellationOpen providerOpen h
    | cancellationClosed => exact ih false providerOpen h
    | providerClosed =>
      cases providerOpen with
      | true => exact ih cancellationOpen false h
      | false => exact ih cancellationOpen false h
    | event event =>
      cases providerOpen with
      | true =>
        unfold collectLoop
        refine (forward_sound h hcred event).bind fun acc' h' => ?_
        refine (ih cancellationOpen true h').mono (fun out hout => ?_) fun _ h => h
        rw [append_assoc, singleton_append] at hout
        exact hout
      | false => exact ih cancellationOpen false h

theorem drain_sound (events : List ProviderEvent)
    (hcred : ∀ value ∈ credential, byteLen value ≤ maxBorrowedCredentialBytes)
    (h : acc.Sound X credential sent) :
    Ensures (fun acc' => acc'.Sound X credential (sent ++ events)) (Stops X credential)
      (drain X events acc) := by
  induction events generalizing acc sent with
  | nil =>
    rw [append_nil]
    exact h
  | cons event events ih =>
    unfold drain
    refine (forward_sound h hcred event).bind fun acc' h' => ?_
    rw [append_cons]
    exact ih h'

/-- The text of an error that leaves the core: one of its own, or free of the credential. -/
def SafeMessage (credential : Option String) (message : String) : Prop :=
  message ∈ ownMessages ∨ (CredentialReflectionGuard.new credential).contains message = false

theorem boundProviderError_safe (error : CoreError) :
    SafeMessage credential (boundProviderError X.uuid error (.new credential)).message := by
  unfold boundProviderError
  by_cases hreflected : (new credential).contains error.message = true ∨
      (new credential).contains error.operationId = true
  · rw [if_pos hreflected]
    exact .inl mem_ownMessages_reflection
  · rw [if_neg hreflected]
    rw [not_or] at hreflected
    split
    · exact .inr (eq_false_of_ne_true hreflected.1)
    · exact .inl (by simp [CoreError.new, ownMessages])

/-- What is known when the provider is done. -/
structure Collected (X : ChatExternals) (credential : Option String) (schedule : Schedule)
    (acc : GenerationAccumulator) (result : CoreResult GenerationUsage) : Prop where
  sound : ∃ sent, acc.Sound X credential sent ∧
    ∀ usage, result = .ok usage → sent = schedule.provided
  idle : ∀ usage, result = .ok usage → acc.activeToolCalls = ∅
  usage : ∀ usage, result = .ok usage → schedule.result = .ok usage
  safe : ∀ error, result = .error error → SafeMessage credential error.message

theorem collectProviderEvents_collected (schedule : Schedule)
    (hcred : ∀ value ∈ credential, byteLen value ≤ maxBorrowedCredentialBytes)
    (h : acc.Sound X credential []) :
    Ensures (fun out => Collected X credential schedule out.1 out.2) (Stops X credential)
      (collectProviderEvents X schedule acc) := by
  unfold collectProviderEvents
  refine .ite (fun _ => ?_) fun _ => ?_
  · refine ⟨⟨[], h, fun _ hok => (by cases hok)⟩, fun _ hok => (by cases hok),
      fun _ hok => (by cases hok), ?_⟩
    intro error herr
    cases herr
    exact .inl (by simp [cancelledError, CoreError.new, ownMessages])
  refine (collectLoop_sound schedule.result schedule.ticks true true hcred h).bind ?_
  rintro ⟨acc₁, result, providerOpen⟩ ⟨sent₁, h₁, hres⟩
  refine (drain_sound _ hcred h₁).bind fun acc₂ h₂ => ?_
  have hguard : acc₁.credentialGuard = .new credential := h₁.relays.log.guard
  cases result with
  | error error =>
    refine ⟨⟨_, h₂, fun _ hok => (by cases hok)⟩, fun _ hok => (by cases hok),
      fun _ hok => (by cases hok), ?_⟩
    intro bounded herr
    cases herr
    rw [hguard]
    exact boundProviderError_safe error
  | ok usage =>
    have hmsg : (toolProtocolError X.uuid
        "provider generation ended with an incomplete tool call").message ∈ ownMessages :=
      own_toolProtocolError (by simp [ownMessages])
    obtain ⟨hscheduled, hsent, hopen⟩ : Except.ok usage = schedule.result ∧
        sent₁ = received true schedule.ticks ∧
        providerOpen = staysOpen true schedule.ticks := by
      rcases hres with hcanc | hres
      · cases hcanc
      · exact hres
    refine (ensures_require fun _ => h₂.stops hmsg).bind fun _ hidle => ?_
    refine ⟨⟨_, h₂, fun _ _ => ?_⟩, fun _ _ => hidle, ?_, fun _ herr => (by cases herr)⟩
    · rw [hsent, hopen]
      rfl
    · intro usage husage
      cases husage
      exact hscheduled.symm

end Collecting

/-! ### The whole run -/

section Generating

open GenerationAccumulator

variable {X : ChatExternals} {credential : Option String} {acc : GenerationAccumulator}

/-- The accumulator that has announced the generation and nothing else. -/
def announced (request : GenerationRequest) (credential : Option String) :
    GenerationAccumulator :=
  { GenerationAccumulator.new request credential none with
    emitted := [.new request.generationId request.conversationId 1 .generationStarted] }

theorem announced_sound (X : ChatExternals) (request : GenerationRequest)
    (credential : Option String) : (announced request credential).Sound X credential [] := by
  have hstrm (id : ToolCallId) : (announced request credential).stream id = none := rfl
  have hempty := guard_contains_empty credential
  refine ⟨⟨⟨rfl, rfl, ?_, rfl, ?_, fun state hst => nomatch hst⟩, ?_, rfl, ?_, ?_⟩, ?_⟩
  · exact fun _ => ⟨rfl, rfl⟩
  · intro event hev name hname
    rw [mem_singleton.mp hev] at hname
    cases hname
  · exact ⟨follows_new credential, follows_new credential, fun id => ⟨rfl, hempty⟩⟩
  · exact tracked_nil.skip rfl
  · intro id hid
    cases hid
  · refine ⟨tracked_nil, fun id => ?_, ?_, fun id => ?_, nodup_nil, ?_, le_refl _,
      zero_le _⟩
    · simp [announced, GenerationAccumulator.new]
    · intro id hid
      cases hid
    · simp [announced, GenerationAccumulator.new]
    · show 1 ≤ 1 + maxEmittedPerEvent * 0
      omega

/-- A generation that ended well: all channels are closed, the usage is the last event, and
    the outcome reports the accumulator. -/
structure Delivered (X : ChatExternals) (credential : Option String) (schedule : Schedule)
    (acc : GenerationAccumulator) (outcome : GenerationOutcome) : Prop where
  relays : ∃ acc₀ : GenerationAccumulator,
    acc₀.Relays X credential (sentTraffic schedule.provided) closed ∧
      acc = acc₀.emitting (.usageUpdated outcome.usage)
  bounded : acc.emitted.length ≤ u64Max
  scheduled : schedule.result = .ok outcome.usage
  text : outcome.text = acc.text
  states : outcome.opaqueReasoningState = acc.opaqueReasoningState
  lastSequence : outcome.lastSequence = acc.sequence
  summary : ∀ text ∈ summaryTexts X.parseJson outcome.usage,
    (CredentialReflectionGuard.new credential).contains text = false

/-- A generation that stopped: its error is safe, and what went out is accounted for. -/
structure StoppedSafe (X : ChatExternals) (credential : Option String) (stopped : Stopped) :
    Prop where
  error : ∃ error, stopped.fault = .error error ∧ SafeMessage credential error.message
  account : stopped.acc.emitted = [] ∧ stopped.acc.text = "" ∨
    ∃ all channels, stopped.acc.Relays X credential all channels

theorem GenerationAccumulator.Stops.safe {stopped : Stopped} (h : Stops X credential stopped) :
    StoppedSafe X credential stopped ∧ stopped.acc.InBounds := by
  obtain ⟨error, hfault, hmsg⟩ := h.fault
  exact ⟨⟨⟨error, hfault, .inl hmsg⟩, .inr h.relays⟩, h.bounded⟩

theorem validateUsage_ensures (usage : GenerationUsage) :
    Ensures (fun usage' => usage' = usage ∧ ∀ text ∈ summaryTexts X.parseJson usage,
        (new credential).contains text = false)
      OwnFault ((new credential).validateUsage X usage) := by
  refine .ite (fun _ => ownFault_reflection) fun hclean => ⟨rfl, fun text htext => ?_⟩
  rcases guard_new_cases credential with hnone | ⟨value, hvalue, rfl⟩
  · rw [hnone]
    rfl
  rw [guard_new_contains hvalue]
  rw [guard_new_credential hvalue] at hclean
  unfold summaryTexts at htext
  cases hsum : usage.providerRawSummary with
  | none =>
    rw [hsum] at htext
    cases htext
  | some summary =>
    rw [hsum] at htext
    have hexact : boundedJsonContainsExact X summary.val value = false := by
      simpa [hsum] using hclean
    unfold boundedJsonContainsExact at hexact
    cases hparse : X.parseJson summary.val with
    | none =>
      rw [hparse] at hexact
      cases hexact
    | some json =>
      simp only [hparse] at htext hexact
      exact (jsonValueContainsExact_eq_false value json).mp hexact text htext

/-- The numbers stay far below their limit. -/
theorem emitted_le_u64Max {emitted count deferred : Nat}
    (hemitted : emitted ≤ 1 + maxEmittedPerEvent * count) (hdeferred : deferred ≤ count)
    (hcount : count ≤ maxGeneratedProviderEvents) :
    emitted + 2 + maxEmittedPerCompletion * deferred + 3 ≤ u64Max := by
  simp only [maxEmittedPerEvent, maxToolArgumentDeltaBytes, maxBorrowedCredentialBytes,
    maxGeneratedProviderEvents, maxEmittedPerCompletion, u64Max] at *
  omega

theorem concludeGeneration_delivered {result : CoreResult GenerationUsage}
    (hcred : ∀ value ∈ credential, byteLen value ≤ maxBorrowedCredentialBytes)
    (h : Collected X credential schedule acc result) :
    Ensures (fun out => Delivered X credential schedule out.1 out.2 ∧ out.1.InBounds)
      (fun stopped => StoppedSafe X credential stopped ∧ stopped.acc.InBounds)
      (concludeGeneration X acc result) := by
  obtain ⟨sent, hsound, hsent⟩ := h.sound
  cases result with
  | error error =>
    exact ⟨⟨⟨error, rfl, h.safe error rfl⟩, .inr ⟨_, _, hsound.relays⟩⟩, hsound.books.inBounds⟩
  | ok usage =>
    have hsent := hsent usage rfl
    subst hsent
    unfold concludeGeneration
    rw [hsound.relays.log.guard]
    refine ((hsound.lift (validateUsage_ensures usage)).mono (fun _ h => h)
      fun _ h => h.safe).bind ?_
    rintro usage ⟨rfl, hsum⟩
    refine ((finishPublicStreams_closed hsound hcred (h.idle usage rfl)).mono
      (fun _ h => h) fun _ h => h.elim).bind fun acc' hacc' => ?_
    obtain ⟨hrelays, hlen⟩ := hacc'
    rw [emit_of_open hrelays.log.receiver]
    have hbooks := hsound.books
    have hlim := emitted_le_u64Max hbooks.emittedBound hbooks.deferredBound hbooks.countBound
    have hbds : (acc'.emitting (.usageUpdated usage)).InBounds := by
      show (acc'.emitted ++ _).length + 2 ≤ u64Max
      rw [length_append, length_singleton]
      omega
    exact ⟨⟨⟨acc', hrelays, rfl⟩, le_trans (le_add_right _ 2) hbds, h.usage usage rfl,
      rfl, rfl, rfl, hsum⟩, hbds⟩

/-- **How a generation ends**, for every request, credential and schedule: delivered, or
    stopped with a safe error and an account of what went out; it does not panic, and the
    numbers of two more events would fit. -/
theorem generate_ensures (X : ChatExternals) (request : GenerationRequest)
    (credential : Option String) (schedule : Schedule) :
    Ensures (fun out => Delivered X credential schedule out.1 out.2 ∧ out.1.InBounds)
      (fun stopped => StoppedSafe X credential stopped ∧ stopped.acc.InBounds)
      (generate X request credential none schedule) := by
  have hstop {error : CoreError} (hmsg : error.message ∈ ownMessages) : StoppedSafe X credential
          ((new request credential none).stop error) ∧
        (new request credential none).InBounds :=
    ⟨⟨⟨error, rfl, .inl hmsg⟩, .inl ⟨rfl, rfl⟩⟩, (by decide : 0 + 2 ≤ u64Max)⟩
  unfold generate
  refine .bind (Q := fun _ => ∀ value ∈ credential,
    byteLen value ≤ maxBorrowedCredentialBytes) ?_ fun _ hcred => ?_
  · cases hlim : validateBorrowedCredential X credential with
    | ok u =>
      have hshort := require_ok.mp hlim
      intro value hvalue
      by_contra hlong
      exact hshort ⟨value, hvalue, by omega⟩
    | error error =>
      refine hstop ?_
      rw [← (require_eq_error.mp hlim).2]
      simp [invalid, CoreError.new, ownMessages]
  refine .bind (Q := fun _ => True) ?_ fun _ _ => ?_
  · cases hrequest : validateGenerationRequest X.uuid request with
    | ok u => exact trivial
    | error error =>
      have hmsg := (validateGenerationRequest_message X.uuid request).of_error hrequest
      exact hstop (mem_append_right _ hmsg)
  rw [sendEvent_of_open rfl, ok_bind]
  refine ((collectProviderEvents_collected schedule hcred
    (announced_sound X request credential)).mono (fun _ h => h) fun _ h => h.safe).bind ?_
  rintro ⟨acc, result⟩ hcoll
  exact concludeGeneration_delivered hcred hcoll

end Generating

end LorePia.Chat
