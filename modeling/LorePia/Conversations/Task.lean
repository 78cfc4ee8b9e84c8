import LorePia.Chat.Closing
import LorePia.Conversations.Endings

namespace LorePia.Conversations

open Lib List
open Chat (ChatEvent ChatEventKind GenerationOutcome GenerationFailure emittedText
  runGeneration)

/-!
# The conversation store — the generation task

`execute_generation_task`: a generation runs, a second task forwards its events to the
subscribers and saves the partial reply, and at the end the reply is made final and the
subscribers get one terminal event.  Every storage call may fail, before its commit or after
it (`Outcome`).

The forwarder keeps to its channel: it publishes all events of the channel if it ends well, and
a beginning of them otherwise, and it ends no generation (`forwardGenerationEvents_covers`).
-/

variable (X : Externals) (uuid : String)

/-! ### Storage calls -/

/-- How a storage call turns out: as the operation does, with an error and without effect, or
    with an error although it was committed. -/
inductive Outcome
  | performed
  | lost (error : CoreError)
  | misreported (error : CoreError)

/-- What a storage call reports, and the store after it. -/
def call (outcome : Outcome) (operation : Store → CoreResult Store) (store : Store) :
    CoreResult Unit × Store :=
  match outcome, operation store with
  | .performed, .ok store' => (.ok (), store')
  | .performed, .error error => (.error error, store)
  | .lost error, _ => (.error error, store)
  | .misreported error, .ok store' => (.error error, store')
  | .misreported error, .error _ => (.error error, store)

/-- `get_generation`. -/
def getGeneration (generationId : String) (store : Store) : CoreResult GenerationRecord :=
  okOr (store.generations.find? generationId) (notFound uuid "generation was not found")

/-- What a read reports. -/
def readCall {α : Type} (outcome : Outcome) (operation : Store → CoreResult α)
    (store : Store) : CoreResult α :=
  match outcome with
  | .performed => operation store
  | .lost error | .misreported error => .error error

/-! ### The forwarder -/

/-- `PARTIAL_CHECKPOINT_BYTES`. -/
def partialCheckpointBytes : Nat := 64 * 1024

def partialCheckpointDue (currentBytes lastCheckpointBytes : Nat) : Bool :=
  currentBytes - lastCheckpointBytes ≥ partialCheckpointBytes

/-- What the scheduler does around one event of the forwarder: the ticks of the interval that
    come before it, with the outcomes of their checkpoints, whether the task is stopped then,
    and the outcome of a checkpoint after the event.  The last round is about the closed
    channel. -/
structure Round where
  ticks : List Outcome
  unexpected : Option String
  checkpoint : Outcome

/-- No tick, and a checkpoint that is performed. -/
def Round.quiet : Round := ⟨[], none, .performed⟩

structure ForwardState where
  checkpoint : Message
  lastCheckpointBytes : Nat
  dirty : Bool
  published : List ChatEvent
  store : Store

/-- A forwarder that ended with an error, with its last state. -/
structure ForwardStop where
  error : CoreError
  state : ForwardState

def ForwardState.save (outcome : Outcome) (s : ForwardState) : Except ForwardStop ForwardState :=
  match call outcome (checkpointPendingAssistant X uuid s.checkpoint) s.store with
  | (.ok _, store) =>
    .ok { s with store, lastCheckpointBytes := byteLen s.checkpoint.content, dirty := false }
  | (.error error, store) => .error ⟨error, { s with store }⟩

section Forwarder

variable (branchId assistantMessageId : String) (preservePartial : Bool)

/-- A tick of the interval, which is polled only if partial replies are kept.  The closed
    channel does the same once more. -/
def ForwardState.tick (outcome : Outcome) (s : ForwardState) : Except ForwardStop ForwardState :=
  if preservePartial = true ∧ s.dirty = true then s.save X uuid outcome else .ok s

/-- The text that a checkpoint will save. -/
def ForwardState.observe (event : ChatEvent) (s : ForwardState) : ForwardState :=
  match event.kind with
  | .textDelta delta =>
    if preservePartial then
      { s with
        checkpoint := { s.checkpoint with content := s.checkpoint.content ++ delta }
        dirty := true }
    else s
  | _ => s

def ForwardState.publish (event : ChatEvent) (s : ForwardState) : ForwardState :=
  { s with published := s.published ++ [event.withRoute branchId assistantMessageId] }

def ForwardState.receive (event : ChatEvent) (outcome : Outcome) (s : ForwardState) :
    Except ForwardStop ForwardState :=
  let s := (s.observe preservePartial event).publish branchId assistantMessageId event
  if preservePartial = true ∧ s.dirty = true ∧
      partialCheckpointDue (byteLen s.checkpoint.content) s.lastCheckpointBytes = true then
    s.save X uuid outcome
  else .ok s

/-- What happens before an event. -/
def ForwardState.await (round : Round) (s : ForwardState) : Except ForwardStop ForwardState := do
  let s ← round.ticks.foldlM (fun s outcome => s.tick X uuid preservePartial outcome) s
  match round.unexpected with
  | some reason =>
    .error ⟨.new uuid .internal
      ("generation event forwarder stopped unexpectedly: " ++ reason) false, s⟩
  | none => .ok s

/-- The loop of `forward_generation_events` over the events of its channel. -/
def forwardEvents : List ChatEvent → List Round → ForwardState → Except ForwardStop ForwardState
  | [], rounds, s => do
    let round := rounds.headD .quiet
    let s ← s.await X uuid preservePartial round
    s.tick X uuid preservePartial round.checkpoint
  | event :: events, rounds, s => do
    let round := rounds.headD .quiet
    let s ← s.await X uuid preservePartial round
    let s ← s.receive X uuid branchId assistantMessageId preservePartial event round.checkpoint
    forwardEvents events rounds.tail s

end Forwarder

/-- How the forwarder ended. -/
structure Forwarded where
  result : CoreResult Unit
  published : List ChatEvent
  store : Store

def forwardGenerationEvents (branchId assistantMessageId : String) (preservePartial : Bool)
    (checkpoint : Message) (events : List ChatEvent) (rounds : List Round) (store : Store) :
    Forwarded :=
  let start : ForwardState :=
    { checkpoint, lastCheckpointBytes := 0, dirty := false, published := [], store }
  match forwardEvents X uuid branchId assistantMessageId preservePartial events rounds start with
  | .ok s => ⟨.ok (), s.published, s.store⟩
  | .error stop => ⟨.error stop.error, stop.state.published, stop.state.store⟩

/-! ### The end of the task -/

def mergeGenerationAndForwardingResults :
    Except GenerationFailure GenerationOutcome → CoreResult Unit →
      Except GenerationFailure GenerationOutcome
  | result, .ok _ => result
  | .ok outcome, .error error =>
    .error { error, partialText := outcome.text, lastSequence := outcome.lastSequence }
  | .error failure, .error error => .error { failure with error }

/-- The reply, the number of the next event, the terminal event, and whether the reply is
    kept. -/
structure Applied where
  assistant : Message
  sequence : Nat
  terminalKind : ChatEventKind
  shouldCommit : Bool

def applyGenerationResult (assistant : Message)
    (result : Except GenerationFailure GenerationOutcome) (preservePartial : Bool) : Applied :=
  match result with
  | .ok outcome =>
    { assistant := { assistant with content := outcome.text, status := .complete }
      sequence := saturatingAdd outcome.lastSequence 1
      terminalKind := .generationFinished
      shouldCommit := true }
  | .error failure =>
    let cancelled := failure.error.code == .cancelled
    { assistant := { assistant with
        content := failure.partialText
        status := if cancelled then .cancelled else .failed }
      sequence := saturatingAdd failure.lastSequence 1
      terminalKind :=
        if cancelled then .generationCancelled
        else .generationFailed failure.error.code.asStr failure.error.message
      shouldCommit := preservePartial && failure.partialText != "" }

def generationStatusForMessage : MessageStatus → GenerationStatus
  | .pending => .running
  | .complete => .complete
  | .cancelled => .cancelled
  | .failed => .failed

/-- `GENERATION_PERSISTENCE_FAILURE_MESSAGE`. -/
def generationPersistenceFailureMessage : String :=
  "generation state could not be saved; retry the message"

def generationPersistenceFailure : ChatEventKind :=
  .generationFailed CoreErrorCode.storageUnavailable.asStr generationPersistenceFailureMessage

/-- What the scheduler and the storage do in one run of the task: the generation, when its
    receiver closes, the rounds of the forwarder, and the outcomes and the times of the
    terminal calls. -/
structure TaskSchedule where
  generation : Chat.Schedule
  receiver : Option Nat
  rounds : List Round
  finalize : Outcome
  finalizedAt : String
  compensate : Outcome
  compensatedAt : String
  read : Outcome

structure GenerationTask where
  branchId : String
  request : LorePia.GenerationRequest
  assistant : Message
  credential : Option String
  preservePartial : Bool

/-- The outcome of `let committed = …`: whether the reply is announced, the reply, the terminal
    event and the store. -/
structure Persisted where
  committed : Bool
  assistant : Message
  terminalKind : ChatEventKind
  store : Store

/-- After `finalize_generation_with_protocol_state` has reported an error. -/
def compensateGenerationTerminal (catalog : Catalog) (schedule : TaskSchedule)
    (generationId : String) (assistant : Message) (shouldCommit : Bool)
    (terminalKind : ChatEventKind) (store : Store) : Persisted :=
  let failed : Message := { assistant with status := .failed }
  let compensation := call schedule.compensate (failGenerationAfterFinalizeError X uuid catalog
    failed shouldCommit schedule.compensatedAt) store
  if compensation.1.isOk then
    ⟨shouldCommit, failed, generationPersistenceFailure, compensation.2⟩
  else
    match readCall schedule.read (getGeneration uuid generationId) compensation.2 with
    | .ok generation =>
      if generation.status = generationStatusForMessage assistant.status then
        ⟨shouldCommit, assistant, terminalKind, compensation.2⟩
      else ⟨false, failed, generationPersistenceFailure, compensation.2⟩
    | .error _ => ⟨false, failed, generationPersistenceFailure, compensation.2⟩

/-- `persist_generation_terminal`, up to its events. -/
def persistGenerationTerminal (catalog : Catalog) (schedule : TaskSchedule)
    (generationId : String) (assistant : Message) (usage : Option GenerationUsage)
    (opaqueReasoningState : List OpaqueReasoningState) (errorCode : Option String)
    (shouldCommit : Bool) (terminalKind : ChatEventKind) (store : Store) : Persisted :=
  let persistence := call schedule.finalize (finalizeGenerationWithProtocolState X uuid catalog
    assistant usage opaqueReasoningState errorCode shouldCommit schedule.finalizedAt) store
  if persistence.1.isOk then ⟨shouldCommit, assistant, terminalKind, persistence.2⟩
  else
    compensateGenerationTerminal X uuid catalog schedule generationId assistant shouldCommit
      terminalKind persistence.2

/-- What the finishing task publishes, from the number `sequence` on. -/
def terminalEvents (task : GenerationTask) (sequence : Nat) (persisted : Persisted) :
    List ChatEvent :=
  let event := fun (sequence : Nat) (kind : ChatEventKind) =>
    (ChatEvent.new task.request.generationId task.request.conversationId sequence
      kind).withRoute task.branchId task.assistant.id
  if persisted.committed then
    [ event sequence (.messageCommitted persisted.assistant.id persisted.assistant.status),
      event (saturatingAdd sequence 1) persisted.terminalKind ]
  else [event sequence persisted.terminalKind]

/-- What is left of a task: the published events, the store, and how the forwarder ended. -/
structure TaskEnd where
  published : List ChatEvent
  store : Store
  forwarding : CoreResult Unit

/-- What `run_generation` returns, unless it panics. -/
def endedResult : Chat.Ended → Option (Except GenerationFailure GenerationOutcome)
  | .completed outcome => some (.ok outcome)
  | .failed failure => some (.error failure)
  | .panicked => none

variable (C : Chat.ChatExternals)

def GenerationTask.run (task : GenerationTask) (schedule : TaskSchedule) : Chat.GenerationRun :=
  runGeneration C task.request task.credential schedule.receiver schedule.generation

def GenerationTask.forwarded (task : GenerationTask)
    (schedule : TaskSchedule) (store : Store) : Forwarded :=
  forwardGenerationEvents X uuid task.branchId task.assistant.id task.preservePartial
    task.assistant (task.run C schedule).emitted schedule.rounds store

/-- `execute_generation_task`; a panic of the generation leaves nothing. -/
def executeGenerationTask (catalog : Catalog) (task : GenerationTask)
    (schedule : TaskSchedule) (store : Store) : Option TaskEnd := do
  let forwarded := task.forwarded X uuid C schedule store
  let generationResult ← endedResult (task.run C schedule).ended
  let result := mergeGenerationAndForwardingResults generationResult forwarded.result
  let usage := result.toOption.map GenerationOutcome.usage
  let opaqueReasoningState :=
    (result.toOption.map GenerationOutcome.opaqueReasoningState).getD []
  let errorCode := match result with
    | .ok _ => none
    | .error failure => some failure.error.code.asStr
  let applied := applyGenerationResult task.assistant result task.preservePartial
  let persisted := persistGenerationTerminal X uuid catalog schedule task.request.generationId
    applied.assistant usage opaqueReasoningState errorCode applied.shouldCommit
    applied.terminalKind forwarded.store
  return { published := forwarded.published ++ terminalEvents task applied.sequence persisted
           store := persisted.store
           forwarding := forwarded.result }

/-! ### The forwarder keeps to its channel -/

section Calls

variable {X : Externals} {uuid : String} {store store' : Store} {outcome : Outcome}
  {operation : Store → CoreResult Store}

/-- A call that reports success was committed. -/
theorem call_of_isOk (h : (call outcome operation store).1.isOk = true) :
    operation store = .ok (call outcome operation store).2 := by
  cases outcome with
  | performed =>
    cases hop : operation store with
    | ok store' => simp [call, hop]
    | error error => simp [call, hop, Except.isOk, Except.toBool] at h
  | lost error => simp [call, Except.isOk, Except.toBool] at h
  | misreported error =>
    cases hop : operation store with
    | ok store' => simp [call, hop, Except.isOk, Except.toBool] at h
    | error error => simp [call, hop, Except.isOk, Except.toBool] at h

/-- Whatever a call reports, it was committed or had no effect. -/
theorem call_store (outcome : Outcome) (operation : Store → CoreResult Store) (store : Store) :
    (call outcome operation store).2 = store ∨
      operation store = .ok (call outcome operation store).2 := by
  cases outcome with
  | lost error => exact .inl rfl
  | performed =>
    cases hop : operation store with
    | ok store' => simp [call, hop]
    | error error => simp [call, hop]
  | misreported error =>
    cases hop : operation store with
    | ok store' => simp [call, hop]
    | error error => simp [call, hop]

theorem readCall_ok {α : Type} {read : Store → CoreResult α} {a : α}
    (h : readCall outcome read store = .ok a) : read store = .ok a := by
  cases outcome with
  | performed => exact h
  | lost error => cases h
  | misreported error => cases h

theorem checkpointPendingAssistant_generations
    (h : checkpointPendingAssistant X uuid message store = .ok store') :
    store'.generations = store.generations := by
  obtain ⟨_, h⟩ := guard_ok.mp h
  obtain ⟨generationId, _, ⟨changed, s₁⟩, h₁, h⟩ := steps₂ h
  obtain ⟨_, h⟩ := guard_ok.mp h
  obtain ⟨_, rfl, _⟩ := updateMessages_eq_ok (execute_ok.mp h₁)
  cases pure_inj h
  rfl

end Calls

namespace ForwardState

variable {X : Externals} {uuid branchId assistantMessageId : String} {preservePartial : Bool}
  {s : ForwardState}

/-- The second state has published `events` more, and ended no generation. -/
structure Publishes (events : List ChatEvent) (s s' : ForwardState) : Prop where
  published : s'.published = s.published ++ events
  generations : s'.store.generations = s.store.generations

/-- A step that publishes nothing, however it ends. -/
def Silent (s : ForwardState) (step : Except ForwardStop ForwardState) : Prop :=
  Ensures (Publishes [] s) (fun stop => Publishes [] s stop.state) step

theorem Publishes.refl (s : ForwardState) : Publishes [] s s := ⟨by simp, rfl⟩

theorem Publishes.trans {before after : List ChatEvent} (h : Publishes before s₁ s₂)
    (h' : Publishes after s₂ s₃) :
    Publishes (before ++ after) s₁ s₃ where
  published := by rw [h'.published, h.published, append_assoc]
  generations := h'.generations.trans h.generations

theorem save_silent (outcome : Outcome) (s : ForwardState) : s.Silent (s.save X uuid outcome) := by
  have hgens : (call outcome (checkpointPendingAssistant X uuid s.checkpoint)
      s.store).2.generations = s.store.generations := by
    rcases call_store outcome (checkpointPendingAssistant X uuid s.checkpoint) s.store with
      hstore | hcommd
    · rw [hstore]
    · exact checkpointPendingAssistant_generations hcommd
  unfold save
  split
  case h_1 hcall =>
    rw [hcall] at hgens
    exact ⟨(append_nil _).symm, hgens⟩
  case h_2 hcall =>
    rw [hcall] at hgens
    exact ⟨(append_nil _).symm, hgens⟩

theorem tick_silent (outcome : Outcome) (s : ForwardState) :
    s.Silent (s.tick X uuid preservePartial outcome) :=
  Ensures.ite (fun _ => save_silent outcome s) fun _ => .refl s

theorem ticks_silent (outcomes : List Outcome) (s : ForwardState) :
    s.Silent (outcomes.foldlM (fun s outcome => s.tick X uuid preservePartial outcome) s) := by
  induction outcomes generalizing s with
  | nil => exact .refl s
  | cons outcome outcomes ih =>
    refine (tick_silent outcome s).bind fun s₁ h₁ => ?_
    exact (ih s₁).mono (fun s₂ h₂ => h₁.trans h₂) fun stop hstop => h₁.trans hstop

theorem await_silent (round : Round) (s : ForwardState) :
    s.Silent (s.await X uuid preservePartial round) := by
  refine (ticks_silent round.ticks s).bind fun s₁ h₁ => ?_
  split
  · exact h₁
  · exact h₁

/-- The event goes out, and then a checkpoint may be due. -/
theorem receive_publishes (event : ChatEvent) (outcome : Outcome) (s : ForwardState) :
    Ensures (Publishes [event.withRoute branchId assistantMessageId] s)
      (fun stop => Publishes [event.withRoute branchId assistantMessageId] s stop.state)
      (s.receive X uuid branchId assistantMessageId preservePartial event outcome) := by
  have hobserve : Publishes [] s (s.observe preservePartial event) := by
    unfold observe
    split
    · split
      · exact ⟨(append_nil _).symm, rfl⟩
      · exact .refl s
    · exact .refl s
  have hpublish : Publishes [event.withRoute branchId assistantMessageId] s
      ((s.observe preservePartial event).publish branchId assistantMessageId event) :=
    hobserve.trans ⟨rfl, rfl⟩
  refine Ensures.ite (fun _ => ?_) fun _ => hpublish
  refine (save_silent outcome _).mono (fun s₁ h₁ => ?_) fun stop hstop => ?_
  · exact hpublish.trans h₁
  · exact hpublish.trans hstop

end ForwardState

/-- **The forwarder.** It publishes all events of its channel if it ends well, and a beginning
    of them otherwise. -/
theorem forwardEvents_publishes (events : List ChatEvent) (rounds : List Round) (s : ForwardState) :
    Ensures (s.Publishes (events.map fun event => event.withRoute branchId assistantMessageId))
      (fun stop => ∃ done, done <+: events ∧
        s.Publishes (done.map fun event => event.withRoute branchId assistantMessageId) stop.state)
      (forwardEvents X uuid branchId assistantMessageId preservePartial events rounds s) := by
  induction events generalizing rounds s with
  | nil =>
    refine Ensures.bind ((ForwardState.await_silent _ s).mono (fun _ h => h) ?_) ?_
    · exact fun stop hstop => ⟨[], nil_prefix, hstop⟩
    · intro s₁ h₁
      refine (ForwardState.tick_silent _ s₁).mono (fun s₂ h₂ => h₁.trans h₂) ?_
      exact fun stop hstop => ⟨[], nil_prefix, h₁.trans hstop⟩
  | cons event events ih =>
    refine Ensures.bind ((ForwardState.await_silent _ s).mono (fun _ h => h) ?_) ?_
    · exact fun stop hstop => ⟨[], nil_prefix, hstop⟩
    intro s₁ h₁
    have hfirst : [event] <+: event :: events := (prefix_cons_inj event).mpr nil_prefix
    refine Ensures.bind ((ForwardState.receive_publishes event _ s₁).mono (fun _ h => h) ?_) ?_
    · exact fun stop hstop => ⟨[event], hfirst, h₁.trans hstop⟩
    intro s₂ h₂
    have h₂ := h₁.trans h₂
    refine (ih rounds.tail s₂).mono (fun s₃ h₃ => h₂.trans h₃) ?_
    rintro stop ⟨done, hdone, hstop⟩
    exact ⟨event :: done, (prefix_cons_inj event).mpr hdone, h₂.trans hstop⟩

/-- What a forwarder leaves of a channel: a beginning of its events went out, and all of them
    if it ended well; no generation ended. -/
structure Forwarded.Covers (forwarded : Forwarded) (branchId assistantMessageId : String)
    (events : List ChatEvent) (store : Store) : Prop where
  published : ∃ done, done <+: events ∧ (forwarded.result.isOk = true → done = events) ∧
    forwarded.published = done.map fun event => event.withRoute branchId assistantMessageId
  generations : forwarded.store.generations = store.generations

theorem forwardGenerationEvents_covers {X : Externals} {uuid : String}
    (branchId assistantMessageId : String) (preservePartial : Bool) (checkpoint : Message)
    (events : List ChatEvent) (rounds : List Round) (store : Store) :
    (forwardGenerationEvents X uuid branchId assistantMessageId preservePartial checkpoint events
      rounds store).Covers branchId assistantMessageId events store := by
  let start : ForwardState :=
    { checkpoint, lastCheckpointBytes := 0, dirty := false, published := [], store }
  have hpublishes := @forwardEvents_publishes X uuid branchId assistantMessageId preservePartial
    events rounds start
  unfold forwardGenerationEvents
  dsimp only
  split
  case h_1 s hend =>
    have hs := hpublishes.of_ok hend
    exact ⟨⟨events, prefix_rfl, fun _ => rfl, hs.published.trans (nil_append _)⟩, hs.generations⟩
  case h_2 stop hend =>
    obtain ⟨done, hdone, hstop⟩ := hpublishes.of_error hend
    exact ⟨⟨done, hdone, fun hok => (by cases hok), hstop.published.trans (nil_append _)⟩,
      hstop.generations⟩

end LorePia.Conversations
