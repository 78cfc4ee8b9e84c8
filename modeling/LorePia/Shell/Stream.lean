import LorePia.Chat.Events
import LorePia.Lib.Exec

namespace LorePia.Shell

open Lib Chat List Decidable

/-!
# Shell — one subscription to a generation

`ChatEventStream` filters the broadcast of all generations down to one.  The broadcast may
lose events (and then reports a lag), and nothing in the shell relies on the order, the
numbers, the versions or the routes it sees: whatever does not continue the stream ends it
with one request to reconcile.

A receiver is the list of what it will still deliver; after that it is closed, for good, as
`tokio` keeps it.

* `recv_cases` — the four things one call can do;
* `Served` — the invariant over a run of calls;
* `chat_stream_contiguous` — the shape of every run.
-/

variable {skipped : List Broadcast} {generationId : String} {event : ChatEvent} {observed : String}
  {item : ChatStreamItem} {last : Nat} {rest : List Broadcast}

/-! ### What the frontend sees -/

/-- The raw summary is left out. -/
structure GenerationUsageDto where
  inputTokens : Option Nat
  cachedReadTokens : Option Nat
  cachedWriteTokens : Option Nat
  outputTokens : Option Nat
  reasoningTokens : Option Nat
  toolTokens : Option Nat

def GenerationUsageDto.ofUsage (usage : GenerationUsage) : GenerationUsageDto where
  inputTokens := usage.inputTokens
  cachedReadTokens := usage.cachedReadTokens
  cachedWriteTokens := usage.cachedWriteTokens
  outputTokens := usage.outputTokens
  reasoningTokens := usage.reasoningTokens
  toolTokens := usage.toolTokens

inductive ChatEventKindDto
  | generationStarted
  | reasoningDelta (delta : String)
  | textDelta (delta : String)
  | toolCallStarted (id name : String)
  | toolCallArgumentsDelta (id delta : String)
  | toolCallCompleted (id : String)
  | usageUpdated (usage : GenerationUsageDto)
  | messageCommitted (messageId : String) (status : MessageStatus)
  | generationCancelled
  | generationFailed (code message : String)
  | generationFinished

def ChatEventKindDto.ofKind : ChatEventKind → ChatEventKindDto
  | .generationStarted => .generationStarted
  | .reasoningDelta delta => .reasoningDelta delta
  | .textDelta delta => .textDelta delta
  | .toolCallStarted id name => .toolCallStarted id.val name.val
  | .toolCallArgumentsDelta id delta => .toolCallArgumentsDelta id.val delta.val
  | .toolCallCompleted id => .toolCallCompleted id.val
  | .usageUpdated usage => .usageUpdated (.ofUsage usage)
  | .messageCommitted messageId status => .messageCommitted messageId status
  | .generationCancelled => .generationCancelled
  | .generationFailed code message => .generationFailed code message
  | .generationFinished => .generationFinished

def ChatEventKindDto.isTerminal : ChatEventKindDto → Bool
  | .generationCancelled | .generationFailed _ _ | .generationFinished => true
  | _ => false

structure ChatEventDto where
  eventVersion : Nat
  generationId : String
  conversationId : String
  branchId : Option String
  assistantMessageId : Option String
  sequence : Nat
  kind : ChatEventKindDto

def ChatEventDto.ofEvent (event : ChatEvent) : ChatEventDto where
  eventVersion := event.eventVersion
  generationId := event.generationId
  conversationId := event.conversationId
  branchId := event.branchId
  assistantMessageId := event.assistantMessageId
  sequence := event.sequence
  kind := .ofKind event.kind

def ChatEventDto.isSupportedVersion (event : ChatEventDto) : Bool :=
  event.eventVersion == chatEventVersion

inductive ReconcileReason
  | broadcastLagged
  | unsupportedEventVersion
  | routeMismatch
  | duplicateOrDecreasingSequence
  | sequenceGap
  | eventAfterTerminal
deriving DecidableEq

structure ReconciliationRequiredDto where
  reason : ReconcileReason
  generationId : String
  conversationId : String
  branchId : String
  lastSequence : Option Nat
  observedSequence : Option Nat
  droppedEvents : Option Nat
  supportedEventVersion : Nat

inductive ChatStreamItem
  | event (event : ChatEventDto)
  | reconciliationRequired (request : ReconciliationRequiredDto)
  | closed

/-! ### The stream -/

/-- What the broadcast delivers. -/
inductive Broadcast
  | event (event : ChatEvent)
  | lagged (dropped : Nat)

structure ChatEventStream where
  receiver : List Broadcast
  generationId : String
  conversationId : String
  branchId : String
  assistantMessageId : Option String
  lastSequence : Option Nat
  terminalSeen : Bool
  reconciliationRequired : Bool

namespace ChatEventStream

def newWithSequenceBaseline (receiver : List Broadcast)
    (generationId conversationId branchId : String) (sequenceBaseline : Nat) :
    ChatEventStream where
  receiver := receiver
  generationId := generationId
  conversationId := conversationId
  branchId := branchId
  assistantMessageId := none
  lastSequence := some sequenceBaseline
  terminalSeen := false
  reconciliationRequired := false

def new (receiver : List Broadcast) (generationId conversationId branchId : String) :
    ChatEventStream :=
  newWithSequenceBaseline receiver generationId conversationId branchId 0

def requireReconciliation (stream : ChatEventStream) (reason : ReconcileReason)
    (observedSequence droppedEvents : Option Nat) : ChatStreamItem × ChatEventStream :=
  (.reconciliationRequired
    { reason
      generationId := stream.generationId
      conversationId := stream.conversationId
      branchId := stream.branchId
      lastSequence := stream.lastSequence
      observedSequence
      droppedEvents
      supportedEventVersion := chatEventVersion },
    { stream with reconciliationRequired := true })

/-- `sequence_problem`. -/
def sequenceProblem (lastSequence : Option Nat) (sequence : Nat) : Option ReconcileReason :=
  match lastSequence with
  | some last =>
    if sequence ≤ last then some .duplicateOrDecreasingSequence
    else if sequence ≠ saturatingAdd last 1 then some .sequenceGap
    else none
  | none => if sequence ≠ 1 then some .sequenceGap else none

/-- The checks on an event of the generation, in the order of `recv`; an event that passes
    them carries an assistant message. -/
def check (stream : ChatEventStream) (event : ChatEventDto) : Except ReconcileReason String := do
  require (event.isSupportedVersion = true) .unsupportedEventVersion
  require (¬ (event.conversationId ≠ stream.conversationId ∨
    event.branchId ≠ some stream.branchId)) .routeMismatch
  let observed ← okOr event.assistantMessageId .routeMismatch
  require (∀ expected ∈ stream.assistantMessageId, expected = observed) .routeMismatch
  require (stream.terminalSeen = false) .eventAfterTerminal
  match sequenceProblem stream.lastSequence event.sequence with
  | some reason => .error reason
  | none => .ok observed

/-- The loop of `recv`, with what the receiver has left. -/
def recvLoop (stream : ChatEventStream) : List Broadcast → ChatStreamItem × ChatEventStream
  | [] => (.closed, { stream with receiver := [] })
  | .lagged dropped :: receiver =>
    requireReconciliation { stream with receiver } .broadcastLagged none (some dropped)
  | .event event :: receiver =>
    if event.generationId ≠ stream.generationId then recvLoop stream receiver
    else
      let event := ChatEventDto.ofEvent event
      match stream.check event with
      | .error reason =>
        requireReconciliation { stream with receiver } reason (some event.sequence) none
      | .ok observed =>
        (.event event,
          { stream with
            receiver
            assistantMessageId := some (stream.assistantMessageId.getD observed)
            lastSequence := some event.sequence
            terminalSeen := event.kind.isTerminal })

def recv (stream : ChatEventStream) : ChatStreamItem × ChatEventStream :=
  if stream.reconciliationRequired then (.closed, stream)
  else stream.recvLoop stream.receiver

/-- The items of successive calls. -/
def recvs : Nat → ChatEventStream → List ChatStreamItem × ChatEventStream
  | 0, stream => ([], stream)
  | calls + 1, stream =>
    let received := stream.recv
    let rest := recvs calls received.2
    (received.1 :: rest.1, rest.2)

/-! ### One call -/

/-- The events of one generation among what the broadcast delivered. -/
def ofGeneration (generationId : String) : Broadcast → Option ChatEvent
  | .event event => if event.generationId = generationId then some event else none
  | .lagged _ => none

/-- Only events of other generations. -/
def Skipped (generationId : String) (broadcasts : List Broadcast) : Prop :=
  ∀ broadcast ∈ broadcasts, ∃ event, broadcast = .event event ∧ event.generationId ≠ generationId

/-- What one call can do. -/
inductive Receives (stream : ChatEventStream) : ChatStreamItem → ChatEventStream → Prop
  | spent : stream.reconciliationRequired = true → Receives stream .closed stream
  | closed : stream.reconciliationRequired = false →
      Skipped stream.generationId stream.receiver →
      Receives stream .closed { stream with receiver := [] }
  | rejected {request : ReconciliationRequiredDto} {rest : List Broadcast} :
      stream.reconciliationRequired = false → stream.receiver ≠ [] →
      Receives stream (.reconciliationRequired request)
        { stream with receiver := rest, reconciliationRequired := true }
  | accepted {skipped rest : List Broadcast} {event : ChatEvent} {observed : String} :
      stream.reconciliationRequired = false →
      stream.receiver = skipped ++ .event event :: rest →
      Skipped stream.generationId skipped →
      event.generationId = stream.generationId →
      stream.check (.ofEvent event) = .ok observed →
      Receives stream (.event (.ofEvent event))
        { stream with
          receiver := rest
          assistantMessageId := some (stream.assistantMessageId.getD observed)
          lastSequence := some event.sequence
          terminalSeen := (ChatEventKindDto.ofKind event.kind).isTerminal }

theorem skipped_snoc (h : Skipped generationId skipped) (hoth : event.generationId ≠ generationId) :
    Skipped generationId (skipped ++ [.event event]) := by
  exact forall_mem_concat.mpr ⟨h, event, rfl, hoth⟩

theorem recvLoop_cases (stream : ChatEventStream) (hopen : stream.reconciliationRequired = false)
    (skipped receiver : List Broadcast) (hrecv : stream.receiver = skipped ++ receiver)
    (hskipped : Skipped stream.generationId skipped) :
    Receives stream (stream.recvLoop receiver).1 (stream.recvLoop receiver).2 := by
  induction receiver generalizing skipped with
  | nil =>
    rw [append_nil] at hrecv
    exact .closed hopen (hrecv ▸ hskipped)
  | cons broadcast receiver ih =>
    have hne : stream.receiver ≠ [] := by simp [hrecv]
    cases broadcast with
    | lagged dropped => exact .rejected hopen hne
    | event event =>
      rw [recvLoop]
      by_cases hoth : event.generationId ≠ stream.generationId
      · rw [if_pos hoth]
        exact ih (skipped ++ [.event event]) (by rw [hrecv, append_cons])
          (skipped_snoc hskipped hoth)
      · rw [if_neg hoth]
        rw [ne_eq, not_not] at hoth
        cases hcheck : stream.check (.ofEvent event) with
        | error reason =>
          simp only [hcheck]
          exact .rejected hopen hne
        | ok observed =>
          simp only [hcheck]
          exact .accepted hopen hrecv hskipped hoth hcheck

theorem recv_cases (stream : ChatEventStream) : Receives stream stream.recv.1 stream.recv.2 := by
  unfold recv
  cases hspent : stream.reconciliationRequired with
  | true => exact .spent hspent
  | false => exact recvLoop_cases stream hspent [] stream.receiver rfl (fun _ h => nomatch h)

theorem recvs_exec (calls : Nat) (stream : ChatEventStream) :
    Exec Receives stream (recvs calls stream).1 (recvs calls stream).2 := by
  induction calls generalizing stream with
  | zero => exact .nil stream
  | succ calls ih => exact .cons (recv_cases stream) (ih stream.recv.2)

/-- A sequence without a problem is the successor; the largest number has none. -/
theorem sequence_of_no_problem {sequence : Nat}
    (h : sequenceProblem (some last) sequence = none) : sequence = last + 1 := by
  rw [sequenceProblem] at h
  by_cases hle : sequence ≤ last
  · rw [if_pos hle] at h
    cases h
  · rw [if_neg hle] at h
    by_cases hgap : sequence = saturatingAdd last 1
    · have hsaturated : saturatingAdd last 1 ≤ last + 1 := Nat.min_le_left _ _
      omega
    · rw [if_pos hgap] at h
      cases h

example : sequenceProblem (some u64Max) u64Max = some .duplicateOrDecreasingSequence := by decide

/-- An event that passes the checks is of this route and continues the numbers. -/
theorem check_ok {stream : ChatEventStream} {event : ChatEventDto} (hlast : stream.lastSequence = some last)
    (h : stream.check event = .ok observed) :
    event.conversationId = stream.conversationId ∧ event.branchId = some stream.branchId ∧
      event.assistantMessageId = some observed ∧
      (∀ expected ∈ stream.assistantMessageId, expected = observed) ∧
      stream.terminalSeen = false ∧ event.sequence = last + 1 := by
  simp only [check, bind_ok, okOr_ok, require_ok, hlast] at h
  obtain ⟨_, _, _, hrt, observed', hasst, _, hexp, _, hterm, hseq⟩ := h
  rw [not_or, not_not, not_not] at hrt
  have hproblem : sequenceProblem (some last) event.sequence = none ∧ observed' = observed := by
    cases hproblem : sequenceProblem (some last) event.sequence with
    | some reason =>
      rw [hproblem] at hseq
      cases hseq
    | none =>
      rw [hproblem] at hseq
      exact ⟨rfl, Except.ok.inj hseq⟩
  obtain ⟨hproblem, rfl⟩ := hproblem
  refine ⟨hrt.1, hrt.2, hasst, hexp, hterm, ?_⟩
  exact sequence_of_no_problem hproblem

/-! ### A run of calls -/

/-- The events of a run: all of one route, numbered from the baseline on, none after a
    terminal one. -/
structure Contiguous (start : ChatEventStream) (baseline : Nat) (events : List ChatEventDto) :
    Prop where
  route : ∀ event ∈ events, event.generationId = start.generationId ∧
    event.conversationId = start.conversationId ∧ event.branchId = some start.branchId
  assistant : ∃ assistant, ∀ event ∈ events, event.assistantMessageId = some assistant
  numbered : events.map ChatEventDto.sequence = List.range' (baseline + 1) events.length
  terminalLast : ∀ event ∈ events.dropLast, event.kind.isTerminal = false
  genuine : ∀ event ∈ events, ∃ source, Broadcast.event source ∈ start.receiver ∧
    source.generationId = start.generationId ∧ event = .ofEvent source

/-- A stream keeps what it subscribed to. -/
structure SameSubscription (start stream : ChatEventStream) : Prop where
  generationId : start.generationId = stream.generationId
  conversationId : start.conversationId = stream.conversationId
  branchId : start.branchId = stream.branchId

/-- Where a stream stands that has not asked to reconcile: what it has read is what it has
    handed on. -/
structure Current (start : ChatEventStream) (baseline : Nat) (events : List ChatEventDto)
    (stream : ChatEventStream) : Prop where
  open_ : stream.reconciliationRequired = false
  last : stream.lastSequence = some (baseline + events.length)
  assistant : ∀ event ∈ events, event.assistantMessageId = stream.assistantMessageId
  terminal : ∀ event ∈ events, event.kind.isTerminal = true → stream.terminalSeen = true
  read : ∃ consumed, start.receiver = consumed ++ stream.receiver ∧
    (∀ dropped, Broadcast.lagged dropped ∉ consumed) ∧
    events = (consumed.filterMap (ofGeneration start.generationId)).map ChatEventDto.ofEvent

/-- The items of a run, and where its stream stands. -/
inductive Served (start : ChatEventStream) (baseline : Nat) :
    List ChatStreamItem → ChatEventStream → Prop
  | running {events : List ChatEventDto} {stream : ChatEventStream} :
      Contiguous start baseline events → Current start baseline events stream →
      Served start baseline (events.map .event) stream
  | ended {events : List ChatEventDto} {stream : ChatEventStream} (closed : Nat) :
      Contiguous start baseline events → Current start baseline events stream →
      stream.receiver = [] →
      Served start baseline (events.map .event ++ List.replicate closed .closed) stream
  | reconciled {events : List ChatEventDto} {stream : ChatEventStream}
      (request : ReconciliationRequiredDto) (closed : Nat) :
      Contiguous start baseline events → stream.reconciliationRequired = true →
      Served start baseline (events.map .event ++ .reconciliationRequired request ::
          List.replicate closed .closed) stream

theorem filterMap_skipped
    (h : Skipped generationId skipped) : skipped.filterMap (ofGeneration generationId) = [] := by
  rw [filterMap_eq_nil_iff]
  intro broadcast hbroadcast
  obtain ⟨event, rfl, hoth⟩ := h broadcast hbroadcast
  exact if_neg hoth

theorem not_lagged_of_skipped
    (h : Skipped generationId skipped) (dropped : Nat) : Broadcast.lagged dropped ∉ skipped := by
  intro hmem
  obtain ⟨event, hev, _⟩ := h _ hmem
  cases hev

section Serving

variable {start stream : ChatEventStream}

/-- The stream expects the assistant of the earlier events. -/
theorem Current.observes (h : Current start baseline events stream)
    (hevs : Contiguous start baseline events)
    (hexp : ∀ assistant, stream.assistantMessageId = some assistant → assistant = observed) :
    ∀ delivered ∈ events, delivered.assistantMessageId = some observed := by
  intro delivered hdeliv
  obtain ⟨assistant, hsome⟩ := hevs.assistant
  have hsame := h.assistant delivered hdeliv
  rw [hsome delivered hdeliv] at hsame ⊢
  rw [hexp assistant hsame.symm]

/-- An accepted event extends the run. -/
theorem Contiguous.snoc (h : Contiguous start baseline events)
    (hcur : Current start baseline events stream) (hframe : SameSubscription start stream)
    (hrecv : stream.receiver = skipped ++ .event event :: rest)
    (hgen : event.generationId = stream.generationId)
    (hcheck : stream.check (.ofEvent event) = .ok observed) :
    Contiguous start baseline (events ++ [.ofEvent event]) := by
  obtain ⟨hconv, hbr, hasst, hexp, hterm, hseq⟩ := check_ok hcur.last hcheck
  refine ⟨?_, ⟨observed, ?_⟩, ?_, ?_, ?_⟩
  · refine forall_mem_append.mpr ⟨h.route, forall_mem_singleton.mpr ?_⟩
    rw [hframe.generationId, hframe.conversationId, hframe.branchId]
    exact ⟨hgen, hconv, hbr⟩
  · exact forall_mem_append.mpr ⟨hcur.observes h hexp, forall_mem_singleton.mpr hasst⟩
  · rw [map_append, h.numbered, length_append, length_singleton, range'_concat]
    have hnumber : event.sequence = baseline + 1 + 1 * events.length := by
      have hseq : event.sequence = baseline + events.length + 1 := hseq
      omega
    rw [← hnumber]
    rfl
  · intro delivered hdeliv
    rw [dropLast_concat] at hdeliv
    by_contra hended
    have hseen := hcur.terminal delivered hdeliv (eq_true_of_ne_false hended)
    rw [hterm] at hseen
    cases hseen
  · obtain ⟨consumed, hconsumed, _⟩ := hcur.read
    refine forall_mem_append.mpr ⟨h.genuine, forall_mem_singleton.mpr ⟨event, ?_, ?_, rfl⟩⟩
    · rw [hconsumed, hrecv]
      simp
    · rw [hframe.generationId]
      exact hgen

theorem Current.snoc (h : Current start baseline events stream)
    (hevs : Contiguous start baseline events) (hframe : SameSubscription start stream)
    (hrecv : stream.receiver = skipped ++ .event event :: rest)
    (hskipped : Skipped stream.generationId skipped)
    (hgen : event.generationId = stream.generationId)
    (hcheck : stream.check (.ofEvent event) = .ok observed) :
    Current start baseline (events ++ [.ofEvent event])
      { stream with
        receiver := rest
        assistantMessageId := some (stream.assistantMessageId.getD observed)
        lastSequence := some event.sequence
        terminalSeen := (ChatEventKindDto.ofKind event.kind).isTerminal } := by
  obtain ⟨_, _, hasst, hexp, hterm, hseq⟩ := check_ok h.last hcheck
  have hgetD : some (stream.assistantMessageId.getD observed) = some observed := by
    cases hstrm : stream.assistantMessageId with
    | none => rfl
    | some assistant => rw [Option.getD_some, hexp assistant hstrm]
  refine ⟨h.open_, ?_, ?_, ?_, ?_⟩
  · show some event.sequence = some (baseline + (events ++ [_]).length)
    have hseq : event.sequence = baseline + events.length + 1 := hseq
    rw [hseq, length_append, length_singleton, Nat.add_assoc]
  · simp only [hgetD]
    exact forall_mem_append.mpr ⟨h.observes hevs hexp, forall_mem_singleton.mpr hasst⟩
  · refine forall_mem_append.mpr ⟨fun delivered hold hended => ?_, forall_mem_singleton.mpr id⟩
    have hseen := h.terminal delivered hold hended
    rw [hterm] at hseen
    cases hseen
  · obtain ⟨consumed, hconsumed, hlag, hevs⟩ := h.read
    refine ⟨consumed ++ (skipped ++ [.event event]), ?_, ?_, ?_⟩
    · rw [hconsumed, hrecv]
      simp
    · intro dropped
      rw [mem_append, mem_append, mem_singleton, not_or, not_or]
      exact ⟨hlag dropped, not_lagged_of_skipped hskipped dropped, Broadcast.noConfusion⟩
    · have hpick : ofGeneration start.generationId (.event event) = some event :=
        if_pos (hgen.trans hframe.generationId.symm)
      have hnone := filterMap_skipped hskipped
      rw [← hframe.generationId] at hnone
      rw [filterMap_append, filterMap_append, hnone, hevs]
      simp [hpick]

/-- A stream that runs dry has read everything. -/
theorem Current.exhausted (h : Current start baseline events stream)
    (hframe : SameSubscription start stream)
    (hskipped : Skipped stream.generationId stream.receiver) :
    Current start baseline events { stream with receiver := [] } := by
  obtain ⟨consumed, hconsumed, hlag, hevs⟩ := h.read
  refine ⟨h.open_, h.last, h.assistant, h.terminal, start.receiver, ?_, ?_, ?_⟩
  · exact (append_nil _).symm
  · intro dropped hmem
    rw [hconsumed] at hmem
    rcases mem_append.mp hmem with hold | hnew
    · exact hlag dropped hold
    · exact not_lagged_of_skipped hskipped dropped hnew
  · have hnone := filterMap_skipped hskipped
    rw [← hframe.generationId] at hnone
    rw [hconsumed, filterMap_append, hnone, append_nil]
    exact hevs

/-- **Step.** One more call continues the shape of a run. -/
theorem Served.step (h : Served start baseline items stream)
    (hframe : SameSubscription start stream) (hcall : Receives stream item stream') :
    Served start baseline (items ++ [item]) stream' := by
  cases h with
  | running hevs hcur =>
    cases hcall with
    | spent hspent =>
      rw [hcur.open_] at hspent
      cases hspent
    | closed _ hskipped => exact .ended 1 hevs (hcur.exhausted hframe hskipped) rfl
    | rejected _ _ => exact .reconciled _ 0 hevs rfl
    | @accepted _ _ event _ _ hrecv hskipped hgen hcheck =>
      rw [← map_singleton, ← map_append]
      exact .running (hevs.snoc hcur hframe hrecv hgen hcheck)
        (hcur.snoc hevs hframe hrecv hskipped hgen hcheck)
  | ended closed hevs hcur hempty =>
    cases hcall with
    | spent hspent =>
      rw [hcur.open_] at hspent
      cases hspent
    | closed _ hskipped =>
      rw [append_assoc, ← replicate_succ']
      exact .ended (closed + 1) hevs (hcur.exhausted hframe hskipped) rfl
    | rejected _ hne => exact absurd hempty hne
    | accepted _ hrecv _ _ _ =>
      rw [hempty] at hrecv
      simp at hrecv
  | reconciled request closed hevs hspent =>
    cases hcall with
    | spent _ =>
      rw [append_assoc, cons_append, ← replicate_succ']
      exact .reconciled request (closed + 1) hevs hspent
    | closed hopen _ | rejected hopen _ | accepted hopen _ _ _ _ =>
      rw [hspent] at hopen
      cases hopen

theorem Receives.sameSubscription
    (hcall : Receives stream item stream') (h : SameSubscription start stream) :
    SameSubscription start stream' := by
  cases hcall <;> exact ⟨h.generationId, h.conversationId, h.branchId⟩

/-- **Run.** Every run of calls on a new stream has the shape. -/
theorem served_of_exec {receiver : List Broadcast} {conversationId branchId : String}
    (h : Exec Receives
      (newWithSequenceBaseline receiver generationId conversationId branchId baseline) items
        stream) :
    Served (newWithSequenceBaseline receiver generationId conversationId branchId baseline)
      baseline items stream := by
  have hinit : Contiguous
      (newWithSequenceBaseline receiver generationId conversationId branchId baseline) baseline
      [] :=
    ⟨fun _ h => (nomatch h), ⟨"", fun _ h => (nomatch h)⟩, rfl, fun _ h => (nomatch h),
      fun _ h => (nomatch h)⟩
  have hcur : Current
      (newWithSequenceBaseline receiver generationId conversationId branchId baseline) baseline
      [] (newWithSequenceBaseline receiver generationId conversationId branchId baseline) :=
    ⟨rfl, rfl, fun _ h => (nomatch h), fun _ h => (nomatch h),
      [], rfl, fun _ h => (nomatch h), rfl⟩
  -- the subscription is part of the history, since every step needs it
  have hrun := Exec.history (P := fun items stream => SameSubscription
        (newWithSequenceBaseline receiver generationId conversationId branchId baseline) stream ∧
      Served (newWithSequenceBaseline receiver generationId conversationId branchId baseline)
        baseline items stream)
    ⟨⟨rfl, rfl, rfl⟩, .running hinit hcur⟩
    (fun _ _ _ _ _ hP hcall => ⟨hcall.sameSubscription hP.1, hP.2.step hP.1 hcall⟩) h
  exact hrun.2

end Serving

/-! ### The prefix -/

/-- Of two lists numbered from the same start, one of which only has elements of the other, it
    is a beginning of the other. -/
theorem eq_take_of_numbered {α : Type} {sequence : α → Nat} {start : Nat} {part whole : List α}
    (hpart : part.map sequence = List.range' start part.length)
    (hwhole : whole.map sequence = List.range' start whole.length)
    (hmem : ∀ a ∈ part, a ∈ whole) : part = whole.take part.length := by
  have hnumber {as : List α} (has : as.map sequence = List.range' start as.length) {i : Nat}
      {a : α} (ha : as[i]? = some a) : sequence a = start + i := by
    have hget : (as.map sequence)[i]? = some (sequence a) := by rw [getElem?_map, ha]; rfl
    rw [has] at hget
    obtain ⟨_, hget⟩ := List.getElem?_eq_some_iff.mp hget
    rw [getElem_range'] at hget
    omega
  refine ext_getElem? fun i => ?_
  by_cases hi : i < part.length
  · have ha : part[i]? = some part[i] := getElem?_eq_getElem hi
    obtain ⟨j, hj, hget⟩ := getElem_of_mem (hmem part[i] (getElem_mem hi))
    have hj' : whole[j]? = some part[i] := by rw [getElem?_eq_getElem hj, hget]
    have hidx : j = i := by
      have hleft := hnumber hpart ha
      have hright := hnumber hwhole hj'
      omega
    subst hidx
    rw [getElem?_take_of_lt hi, ha, hj']
  · rw [getElem?_eq_none (by omega), getElem?_eq_none]
    rw [length_take]
    omega

open ChatEventDto

/-- If the producer numbers its events from the baseline on, what was delivered is a beginning
    of what it produced. -/
theorem Contiguous.eq_take (h : Contiguous start baseline events) {produced : List ChatEvent}
    (hproduced : produced.map ChatEvent.sequence = List.range' (baseline + 1) produced.length)
    (hsrc : ∀ event, Broadcast.event event ∈ start.receiver →
      event.generationId = start.generationId → event ∈ produced) :
    events = (produced.take events.length).map ChatEventDto.ofEvent := by
  have hnum : (produced.map ofEvent).map sequence =
      List.range' (baseline + 1) (produced.map ofEvent).length := by
    rw [map_map, length_map]
    exact hproduced
  have hmem : ∀ event ∈ events, event ∈ produced.map ofEvent := by
    intro event hev
    obtain ⟨source, hreceived, hgen, rfl⟩ := h.genuine event hev
    exact mem_map_of_mem (hsrc source hreceived hgen)
  rw [map_take]
  exact eq_take_of_numbered h.numbered hnum hmem

/-- **The stream is contiguous.** Whatever the broadcast delivers, the items of any number of
    calls are events of the stream's generation, conversation, branch and one assistant
    message, numbered `baseline + 1, baseline + 2, …` with none after a terminal one; then at
    most one request to reconcile; then only `Closed`.  Without such a request, what was
    delivered is every event of the generation that was read, and no lag was; and if the
    producer numbers its events from `baseline + 1` on, what was delivered is a beginning of
    what it produced. -/
theorem chat_stream_contiguous (receiver : List Broadcast)
    (generationId conversationId branchId : String) (baseline calls : Nat) :
    ∃ events reconciliation closed,
      (recvs calls (newWithSequenceBaseline receiver generationId conversationId branchId
          baseline)).1 =
        events.map .event ++ (Option.toList reconciliation).map .reconciliationRequired ++
          List.replicate closed .closed ∧
      ((∀ event ∈ events, event.generationId = generationId ∧
          event.conversationId = conversationId ∧ event.branchId = some branchId) ∧
        (∃ assistant, ∀ event ∈ events, event.assistantMessageId = some assistant) ∧
        events.map ChatEventDto.sequence = List.range' (baseline + 1) events.length ∧
        ∀ event ∈ events.dropLast, event.kind.isTerminal = false) ∧
      (reconciliation = none → ∃ consumed rest, receiver = consumed ++ rest ∧
        (∀ dropped, Broadcast.lagged dropped ∉ consumed) ∧
        events = (consumed.filterMap (ofGeneration generationId)).map ChatEventDto.ofEvent ∧
        (closed ≠ 0 → rest = [])) ∧
      ∀ produced : List ChatEvent,
        produced.map ChatEvent.sequence = List.range' (baseline + 1) produced.length →
        (∀ event, Broadcast.event event ∈ receiver → event.generationId = generationId →
          event ∈ produced) →
        events = (produced.take events.length).map ChatEventDto.ofEvent := by
  have hserved := served_of_exec (recvs_exec calls
    (newWithSequenceBaseline receiver generationId conversationId branchId baseline))
  generalize hitems : (recvs calls
    (newWithSequenceBaseline receiver generationId conversationId branchId baseline)).1 = items
    at hserved
  cases hserved with
  | @running events _ hevs hcur =>
    obtain ⟨consumed, hconsumed, hlag, heq⟩ := hcur.read
    refine ⟨events, none, 0, by simp, ⟨hevs.route, hevs.assistant, hevs.numbered,
      hevs.terminalLast⟩, fun _ => ⟨consumed, _, hconsumed, hlag, heq, fun h => absurd rfl h⟩,
      fun produced hproduced hsrc => hevs.eq_take hproduced hsrc⟩
  | @ended events _ closed hevs hcur hempty =>
    obtain ⟨consumed, hconsumed, hlag, heq⟩ := hcur.read
    refine ⟨events, none, closed, by simp, ⟨hevs.route, hevs.assistant, hevs.numbered,
      hevs.terminalLast⟩, fun _ => ⟨consumed, _, hconsumed, hlag, heq, fun _ => hempty⟩,
      fun produced hproduced hsrc => hevs.eq_take hproduced hsrc⟩
  | @reconciled events _ request closed hevs _ =>
    refine ⟨events, some request, closed, by simp, ⟨hevs.route, hevs.assistant,
      hevs.numbered, hevs.terminalLast⟩, fun h => (nomatch h),
      fun produced hproduced hsrc => hevs.eq_take hproduced hsrc⟩

end ChatEventStream

end LorePia.Shell
