import LorePia.Conversations.Runs
import LorePia.Conversations.Task

namespace LorePia.Conversations

open Lib List Chat ChatEventKind Table
open Chat (ChatEvent ChatEventKind GenerationOutcome GenerationFailure emittedText
  runGeneration)

/-!
# The conversation store — the terminal event

What the generation task announces at its end is what is stored, on every combination of
failures.

* `Stored` — what a terminal transaction that keeps the reply leaves, whichever of the two
    it is;
* `persistGenerationTerminal_agrees` — the announced terminal state is the stored one,
    whatever the calls report: an error says nothing about the commit, but the status that is
    read back does;
* `terminal_event_agrees` — so is what the whole task publishes.
-/

variable {terminalKind : ChatEventKind} {shouldCommit : Bool}
  {result : Except GenerationFailure GenerationOutcome} {schedule : TaskSchedule}
  {status : MessageStatus}

/-! ### The terminal transactions -/

section Terminal

variable {store : Store} {assistant : Message} {generationId : String} {catalog : Catalog}

/-- The reply is stored with its content and status, and its generation with the status that
    goes with it. -/
structure Stored (assistant : Message) (generationId : String) (store : Store) : Prop where
  message : ∃ row ∈ store.messages.rows, row.id = assistant.id ∧
    row.content = assistant.content ∧ row.status = assistant.status
  generation : ∃ row, store.generations.find? generationId = some row ∧
    row.status = generationStatusForMessage assistant.status

/-- The terminal row of a loaded generation, if the reply is kept. -/
theorem Ends.find?_generation {status : GenerationStatus} {persisted : Store}
    (h : Ends X uuid assistant status generationId route store persisted store')
    (hsame : persisted.generations = store.generations) :
    ∃ row, store'.generations.find? generationId = some row ∧ row.status = status := by
  obtain ⟨row, hfind, _⟩ := bind_ok.mp h.load
  rw [okOr_ok, Option.filter_eq_some_iff, beq_iff_eq] at hfind
  obtain ⟨hfind, hrunning⟩ := hfind
  obtain ⟨g, hg, hstat, hgens⟩ := h.generations
  have hid : row.id = generationId := (find?_eq_some.mp hfind).2
  refine ⟨g row, ?_, hstat row⟩
  rw [hgens, hsame, find?_updateWhere, hfind, Option.map_some, if_pos (by simp [hid, hrunning])]

/-- An edit of the one pending reply. -/
theorem exists_edited {hf : ∀ r, (f r).id = r.id} {persisted : Store}
    (h : execute X uuid (store.updateMessages X.sqlite (isPendingOf assistant.id generationId) f hf) =
      .ok (changed, persisted)) (hchanged : changed = 1) :
    persisted.generations = store.generations ∧
      ∃ row, row.id = assistant.id ∧ f row ∈ persisted.messages.rows := by
  obtain ⟨hcount, rfl, _⟩ := updateMessages_eq_ok (execute_ok.mp h)
  have hpos : 0 < store.messages.rows.countP (isPendingOf assistant.id generationId) := by omega
  obtain ⟨row, hrow, hpend⟩ := countP_pos_iff.mp hpos
  have hedited : f row ∈ (store.messages.updateWhere
      (isPendingOf assistant.id generationId) f hf).rows :=
    mem_updateWhere.mpr ⟨row, hrow, if_pos hpend⟩
  exact ⟨rfl, row, (isPendingOf_eq_true.mp hpend).1, hedited⟩

theorem finalizeGenerationWithProtocolState_stored
    (hnamed : assistant.generationId = some generationId)
    (h : finalizeGenerationWithProtocolState X uuid catalog assistant usage opaqueReasoningState
      errorCode true now store = .ok store') : Stored assistant generationId store' := by
  obtain ⟨_, generationId', route, persisted, hpers, hends⟩ :=
    finalizeGenerationWithProtocolState_ends h
  cases Option.some.inj (hnamed.symm.trans hends.named)
  obtain ⟨⟨changed, s₁⟩, hupdate, hchanged, hpers⟩ := step_guard hpers
  cases pure_inj hpers
  obtain ⟨hsame, row, hid, hrow⟩ := exists_edited hupdate hchanged
  rw [← hends.messages] at hrow
  refine ⟨⟨_, hrow, hid, rfl, rfl⟩, ?_⟩
  exact hends.find?_generation hsame

theorem failGenerationAfterFinalizeError_stored
    (hnamed : assistant.generationId = some generationId) (hfailed : assistant.status = .failed)
    (h : failGenerationAfterFinalizeError X uuid catalog assistant true now store = .ok store') :
    Stored assistant generationId store' := by
  obtain ⟨generationId', route, persisted, hcomp, hends⟩ := failGenerationAfterFinalizeError_ends h
  cases Option.some.inj (hnamed.symm.trans hends.named)
  obtain ⟨⟨changed, s₁⟩, hupdate, hchanged, hcomp⟩ := step_guard hcomp
  cases pure_inj hcomp
  obtain ⟨hsame, row, hid, hrow⟩ := exists_edited hupdate hchanged
  rw [← hends.messages] at hrow
  refine ⟨⟨_, hrow, hid, rfl, hfailed.symm⟩, ?_⟩
  rw [hfailed]
  exact hends.find?_generation hsame

/-! ### What is announced is stored -/

/-- The terminal state that is announced: the intended one or the failure to persist it, and a
    reply that is announced is stored. -/
structure Agrees (assistant : Message) (generationId : String) (shouldCommit : Bool)
    (terminalKind : ChatEventKind) (persisted : Persisted) : Prop where
  outcome : persisted.assistant = assistant ∧ persisted.terminalKind = terminalKind ∧
      persisted.committed = shouldCommit ∨
    persisted.assistant = { assistant with status := .failed } ∧
      persisted.terminalKind = generationPersistenceFailure
  intended : persisted.committed = true → shouldCommit = true
  stored : persisted.committed = true → Stored persisted.assistant generationId persisted.store

theorem generationStatusForMessage_ne (h : status ≠ .pending) :
    generationStatusForMessage status ≠ .running := by
  exact messageStatusToGenerationStatus_ne h

theorem eq_failed_of_generationStatus
    (h : generationStatusForMessage status = .failed) : status = .failed := by
  cases status with
  | failed => rfl
  | pending => cases h
  | complete => cases h
  | cancelled => cases h

/-- Behind a finalization that reported an error: it may have been committed, if the reply was
    to be kept, or the generation is still running. -/
theorem compensateGenerationTerminal_agrees (hnamed : assistant.generationId = some generationId)
    (hterm : assistant.status ≠ .pending)
    (hstore : (∀ row, store.generations.find? generationId = some row → row.status = .running) ∨
      (shouldCommit = true → Stored assistant generationId store)) :
    Agrees assistant generationId shouldCommit terminalKind
      (compensateGenerationTerminal X uuid catalog schedule generationId assistant shouldCommit
        terminalKind store) := by
  have hfailed : ∀ store', failGenerationAfterFinalizeError X uuid catalog
      { assistant with status := .failed } shouldCommit schedule.compensatedAt store = .ok store' →
      shouldCommit = true → Stored { assistant with status := .failed } generationId store' := by
    rintro store' hcompensated rfl
    exact failGenerationAfterFinalizeError_stored hnamed rfl hcompensated
  unfold compensateGenerationTerminal
  dsimp only
  split
  case isTrue hreported =>
    exact ⟨.inr ⟨rfl, rfl⟩, fun h => h, hfailed _ (call_of_isOk hreported)⟩
  case isFalse =>
    split
    case h_2 => exact ⟨.inr ⟨rfl, rfl⟩, fun h => (by cases h), fun h => (by cases h)⟩
    case h_1 generation hread =>
      have hfind := okOr_ok.mp (readCall_ok hread)
      split
      case isFalse => exact ⟨.inr ⟨rfl, rfl⟩, fun h => (by cases h), fun h => (by cases h)⟩
      case isTrue hstat =>
        refine ⟨.inl ⟨rfl, rfl, rfl⟩, fun h => h, fun hcommd => ?_⟩
        rcases call_store schedule.compensate (failGenerationAfterFinalizeError X uuid catalog
          { assistant with status := .failed } shouldCommit schedule.compensatedAt) store with
          hsame | hcompensated
        · -- no compensation: the generation is terminal, so the finalization was committed
          rw [hsame] at hfind ⊢
          rcases hstore with hrunning | hstored
          · rw [hrunning generation hfind] at hstat
            exact absurd hstat.symm (generationStatusForMessage_ne hterm)
          · exact hstored hcommd
        · -- the compensation was committed: the intended status was already a failure
          have hstored := hfailed _ hcompensated hcommd
          obtain ⟨row, hrow, hrowFailed⟩ := hstored.generation
          rw [hfind, Option.some.injEq] at hrow
          have hsame : assistant.status = .failed := by
            apply eq_failed_of_generationStatus
            rw [← hstat, hrow, hrowFailed]
            rfl
          obtain ⟨reply, hreply, hid, hcontent, hreplyFailed⟩ := hstored.message
          exact ⟨⟨reply, hreply, hid, hcontent, hreplyFailed.trans hsame.symm⟩,
            generation, hfind, hstat⟩

/-- **Persistence.** Whatever the terminal calls report, what is announced agrees with what is
    stored. -/
theorem persistGenerationTerminal_agrees (hnamed : assistant.generationId = some generationId)
    (hterm : assistant.status ≠ .pending)
    (hrunning : ∀ row, store.generations.find? generationId = some row → row.status = .running) :
    Agrees assistant generationId shouldCommit terminalKind
      (persistGenerationTerminal X uuid catalog schedule generationId assistant usage
        opaqueReasoningState errorCode shouldCommit terminalKind store) := by
  have hfinalized : ∀ store', finalizeGenerationWithProtocolState X uuid catalog assistant usage
      opaqueReasoningState errorCode shouldCommit schedule.finalizedAt store = .ok store' →
      shouldCommit = true → Stored assistant generationId store' := by
    rintro store' hfinalized rfl
    exact finalizeGenerationWithProtocolState_stored hnamed hfinalized
  unfold persistGenerationTerminal
  dsimp only
  split
  case isTrue hreported =>
    exact ⟨.inl ⟨rfl, rfl, rfl⟩, fun h => h, hfinalized _ (call_of_isOk hreported)⟩
  case isFalse =>
    refine compensateGenerationTerminal_agrees hnamed hterm ?_
    rcases call_store schedule.finalize (finalizeGenerationWithProtocolState X uuid catalog
      assistant usage opaqueReasoningState errorCode shouldCommit schedule.finalizedAt) store with
      hsame | hcommd
    · rw [hsame]
      exact .inl hrunning
    · exact .inr (hfinalized _ hcommd)

end Terminal

/-! ### The task -/

/-- The reply of the task belongs to its generation, which is running. -/
structure GenerationTask.Ready (task : GenerationTask) (store : Store) : Prop where
  named : task.assistant.generationId = some task.request.generationId
  running : ∃ row ∈ store.generations.rows,
    row.id = task.request.generationId ∧ row.status = .running

/-- What the subscribers of a generation are told agrees with the store. -/
structure TerminalAgreement (task : GenerationTask) («end» : TaskEnd) : Prop where
  last : ∃ before terminal, «end».published = before ++ [terminal] ∧
    terminal.kind.isTerminal = true ∧ ∀ event ∈ before, event.kind.isTerminal = false
  finished : ∀ event ∈ «end».published, event.kind = .generationFinished →
    (∃ row ∈ «end».store.generations.rows,
      row.id = task.request.generationId ∧ row.status = .complete) ∧
    ∃ row ∈ «end».store.messages.rows,
      row.id = task.assistant.id ∧ row.content = emittedText «end».published
  committed : ∀ event ∈ «end».published, ∀ messageId status,
    event.kind = .messageCommitted messageId status →
    ∃ row ∈ «end».store.messages.rows, row.id = messageId ∧ row.status = status
  numbered : «end».forwarding.isOk = true → ∃ first,
    «end».published.map ChatEvent.sequence = List.range' first «end».published.length

section Agreement

/-- What the reply and the terminal event of a result are. -/
structure Applies (assistant : Message) (result : Except GenerationFailure GenerationOutcome)
    (applied : Applied) : Prop where
  id : applied.assistant.id = assistant.id
  generationId : applied.assistant.generationId = assistant.generationId
  ended : applied.assistant.status ≠ .pending
  terminal : applied.terminalKind.isTerminal = true
  finished : applied.terminalKind = .generationFinished → ∃ outcome, result = .ok outcome ∧
    applied.shouldCommit = true ∧ applied.assistant.status = .complete ∧
    applied.assistant.content = outcome.text
  empty : ∀ failure, result = .error failure → failure.partialText = "" →
    applied.shouldCommit = false

theorem applyGenerationResult_applies (assistant : Message)
    (result : Except GenerationFailure GenerationOutcome) (preservePartial : Bool) :
    Applies assistant result (applyGenerationResult assistant result preservePartial) := by
  cases result with
  | ok outcome =>
    exact {
      id := rfl
      generationId := rfl
      ended := by simp [applyGenerationResult]
      terminal := rfl
      finished := fun _ => ⟨outcome, rfl, rfl, rfl, rfl⟩
      empty := fun failure hfailure => (by cases hfailure) }
  | error failure =>
    refine {
      id := rfl
      generationId := rfl
      ended := ?_
      terminal := ?_
      finished := ?_
      empty := ?_ }
    · by_cases hcanc : failure.error.code = .cancelled
      · simp [applyGenerationResult, hcanc]
      · simp [applyGenerationResult, hcanc]
    · by_cases hcanc : failure.error.code = .cancelled
      · simp [applyGenerationResult, hcanc, isTerminal]
      · simp [applyGenerationResult, hcanc, isTerminal]
    · by_cases hcanc : failure.error.code = .cancelled
      · simp [applyGenerationResult, hcanc]
      · simp [applyGenerationResult, hcanc]
    · rintro _ ⟨⟩ hempty
      simp [applyGenerationResult, hempty]

theorem Agrees.terminal (h : Agrees assistant generationId shouldCommit terminalKind persisted)
    (hterm : terminalKind.isTerminal = true) : persisted.terminalKind.isTerminal = true := by
  rcases h.outcome with ⟨_, hkind, _⟩ | ⟨_, hkind⟩
  · rw [hkind]
    exact hterm
  · rw [hkind]
    rfl

/-- The success of a generation is announced only if its reply was kept and is stored. -/
theorem Agrees.finished (h : Agrees assistant generationId shouldCommit terminalKind persisted)
    (hfin : persisted.terminalKind = .generationFinished) (hkept : shouldCommit = true) :
    Stored assistant generationId persisted.store := by
  rcases h.outcome with ⟨hasst, _, hcommd⟩ | ⟨_, hkind⟩
  · rw [← hasst]
    exact h.stored (hcommd.trans hkept)
  · rw [hkind] at hfin
    cases hfin

/-- The events of the finishing task: at most one about the reply, then the terminal one. -/
theorem terminalEvents_eq (task : GenerationTask) (sequence : Nat) (persisted : Persisted) :
    ∃ before terminal, terminalEvents task sequence persisted = before ++ [terminal] ∧
      terminal.kind = persisted.terminalKind ∧
      ∀ event ∈ before, persisted.committed = true ∧
        event.kind = .messageCommitted persisted.assistant.id persisted.assistant.status := by
  unfold terminalEvents
  split
  case isTrue hcommd =>
    refine ⟨[_], _, rfl, rfl, fun event hev => ?_⟩
    rw [mem_singleton] at hev
    subst hev
    exact ⟨hcommd, rfl⟩
  case isFalse => exact ⟨[], _, rfl, rfl, fun event hev => (by cases hev)⟩

/-- They are numbered from the given number on, as long as the numbers fit. -/
theorem terminalEvents_numbered (task : GenerationTask) {sequence : Nat} (persisted : Persisted)
    (hfits : sequence + 1 ≤ u64Max) :
    (terminalEvents task sequence persisted).map ChatEvent.sequence =
      List.range' sequence (terminalEvents task sequence persisted).length := by
  have hnext : saturatingAdd sequence 1 = sequence + 1 := saturatingAdd_of_le hfits
  unfold terminalEvents
  split
  · simp [ChatEvent.withRoute, ChatEvent.new, hnext, List.range']
  · simp [ChatEvent.withRoute, ChatEvent.new]

theorem emittedText_map_withRoute (events : List ChatEvent) (branchId assistantMessageId : String) :
    emittedText (events.map fun event => event.withRoute branchId assistantMessageId) =
      emittedText events := by
  unfold emittedText channel
  rw [filterMap_map]
  rfl

/-- A merged result is that of the generation, if the forwarder ended well. -/
theorem merge_ok {outcome : GenerationOutcome}
    (h : mergeGenerationAndForwardingResults result forwarding = .ok outcome) :
    result = .ok outcome ∧ forwarding.isOk = true := by
  cases forwarding with
  | ok u => exact ⟨h, rfl⟩
  | error error =>
    cases result with
    | ok outcome => cases h
    | error failure => cases h

theorem merge_of_isOk (h : forwarding.isOk = true) :
    mergeGenerationAndForwardingResults result forwarding = result := by
  cases forwarding with
  | ok u => cases result <;> rfl
  | error error => cases h

/-- What the forwarder published is part of a stream. -/
theorem Forwarded.Covers.streamed {forwarded : Forwarded} {store : Store}
    (h : forwarded.Covers branchId assistantMessageId events store)
    (hstreamed : ∀ event ∈ events, event.kind.isStreamed = true) :
    ∀ event ∈ forwarded.published, event.kind.isStreamed = true := by
  obtain ⟨done, hdone, _, hpublished⟩ := h.published
  rw [hpublished]
  refine forall_mem_map.mpr fun source hsrc => ?_
  exact hstreamed source (hdone.subset hsrc)

variable {forwarded : Forwarded} {applied : Applied}

/-- An event that is not part of the stream comes from the finishing task. -/
theorem mem_terminalEvents (hstreamed : ∀ event ∈ forwarded.published, event.kind.isStreamed = true)
    (hev : event ∈ forwarded.published ++ terminalEvents task applied.sequence persisted)
    (hkind : event.kind.isStreamed = false) :
    event.kind = persisted.terminalKind ∨ persisted.committed = true ∧
      event.kind = .messageCommitted persisted.assistant.id persisted.assistant.status := by
  rcases mem_append.mp hev with hforwarded | hterm
  · rw [hstreamed event hforwarded] at hkind
    cases hkind
  · obtain ⟨before, terminal, heq, hlast, hbef⟩ :=
      terminalEvents_eq task applied.sequence persisted
    rw [heq] at hterm
    rcases mem_append.mp hterm with hmem | hmem
    · exact .inr (hbef event hmem)
    · rw [mem_singleton.mp hmem]
      exact .inl hlast

/-- The text of what is published is that of the stream. -/
theorem emittedText_published
    (hstreamed : ∀ event ∈ terminalEvents task applied.sequence persisted,
      event.kind.text? = none) :
    emittedText (forwarded.published ++ terminalEvents task applied.sequence persisted) =
      emittedText forwarded.published := by
  unfold emittedText
  rw [channel_append, channel_eq_empty hstreamed, String.append_empty]

theorem terminalEvents_silent (hterm : persisted.terminalKind.isTerminal = true)
    (event : ChatEvent) (hev : event ∈ terminalEvents task applied.sequence persisted) :
    event.kind.text? = none := by
  obtain ⟨before, terminal, heq, hlast, hbef⟩ := terminalEvents_eq task applied.sequence persisted
  rw [heq] at hev
  rcases mem_append.mp hev with hmem | hmem
  · rw [(hbef event hmem).2]
    rfl
  · rw [mem_singleton.mp hmem, hlast]
    cases hkind : persisted.terminalKind with
    | textDelta delta =>
      rw [hkind] at hterm
      cases hterm
    | generationStarted | reasoningDelta _ | toolCallStarted _ _ | toolCallArgumentsDelta _ _
    | toolCallCompleted _ | usageUpdated _ | messageCommitted _ _ | generationCancelled
    | generationFailed _ _ | generationFinished => rfl

/-- The pieces of a task agree: a stream that the forwarder covers, a result that is applied to
    the reply, and a persistence that agrees with it. -/
theorem terminalAgreement (hcovers : forwarded.Covers task.branchId task.assistant.id events store)
    (hstreamed : ∀ event ∈ events, event.kind.isStreamed = true)
    (happlies : Applies task.assistant
      (mergeGenerationAndForwardingResults generationResult forwarded.result) applied)
    (hagrees : Agrees applied.assistant task.request.generationId applied.shouldCommit
      applied.terminalKind persisted)
    (htext : ∀ outcome, generationResult = .ok outcome → forwarded.result.isOk = true →
      outcome.text = emittedText events)
    (hnumbers : forwarded.result.isOk = true → events = [] ∧ applied.shouldCommit = false ∨
      ∃ last, events.map ChatEvent.sequence = List.range' 1 last ∧ applied.sequence = last + 1 ∧
        last + 2 ≤ u64Max) :
    TerminalAgreement task ⟨forwarded.published ++ terminalEvents task applied.sequence persisted,
      persisted.store, forwarded.result⟩ := by
  have hpublished := hcovers.streamed hstreamed
  have hterm := hagrees.terminal happlies.terminal
  refine {
    last := ?_
    finished := ?_
    committed := ?_
    numbered := ?_ }
  · obtain ⟨before, terminal, heq, hlast, hbef⟩ :=
      terminalEvents_eq task applied.sequence persisted
    refine ⟨forwarded.published ++ before, terminal, ?_, hlast ▸ hterm, ?_⟩
    · show forwarded.published ++ _ = _
      rw [heq, append_assoc]
    · intro event hev
      rcases mem_append.mp hev with hmem | hmem
      · exact not_isTerminal_of_isStreamed (hpublished event hmem)
      · rw [(hbef event hmem).2]
        rfl
  · intro event hev hfin
    have hkind : persisted.terminalKind = .generationFinished := by
      rcases mem_terminalEvents hpublished hev (by rw [hfin]; rfl) with hkind | ⟨_, hkind⟩
      · exact hkind.symm.trans hfin
      · rw [hfin] at hkind
        cases hkind
    -- success was intended, so the whole stream was published and the reply kept
    have hintended : applied.terminalKind = .generationFinished := by
      rcases hagrees.outcome with ⟨_, hsame, _⟩ | ⟨_, hfailure⟩
      · exact hsame.symm.trans hkind
      · rw [hfailure] at hkind
        cases hkind
    obtain ⟨outcome, hres, hkept, hcompl, hcontent⟩ := happlies.finished hintended
    obtain ⟨hgen, hforw⟩ := merge_ok hres
    have hstored := hagrees.finished hkind hkept
    obtain ⟨row, hrow, hstat⟩ := hstored.generation
    obtain ⟨hrow, hid⟩ := find?_eq_some.mp hrow
    obtain ⟨reply, hreply, hreplyId, hreplyContent, _⟩ := hstored.message
    obtain ⟨done, _, hdone, hall⟩ := hcovers.published
    refine ⟨⟨row, hrow, hid, ?_⟩, reply, hreply, hreplyId.trans happlies.id, ?_⟩
    · rw [hstat, hcompl]
      rfl
    · show reply.content = emittedText (forwarded.published ++ _)
      rw [emittedText_published (terminalEvents_silent hterm), hall, hdone hforw,
        emittedText_map_withRoute, hreplyContent, hcontent, htext outcome hgen hforw]
  · intro event hev messageId status hcommd
    rcases mem_terminalEvents hpublished hev (by rw [hcommd]; rfl) with hkind | ⟨hkept, hkind⟩
    · rw [← hkind, hcommd] at hterm
      cases hterm
    · rw [hcommd, messageCommitted.injEq] at hkind
      obtain ⟨rfl, rfl⟩ := hkind
      obtain ⟨reply, hreply, hid, _, hstat⟩ := (hagrees.stored hkept).message
      exact ⟨reply, hreply, hid, hstat⟩
  · intro hforw
    obtain ⟨done, _, hdone, hall⟩ := hcovers.published
    cases hdone hforw
    have hsequences : forwarded.published.map ChatEvent.sequence =
        events.map ChatEvent.sequence := by
      rw [hall, map_map]
      rfl
    have hlength : forwarded.published.length = events.length := by rw [hall, length_map]
    show ∃ first, (forwarded.published ++ _).map ChatEvent.sequence =
      List.range' first (forwarded.published ++ _).length
    rcases hnumbers hforw with ⟨rfl, hdropped⟩ | ⟨last, hlast, hnext, hfits⟩
    · -- nothing went out before the terminal event
      have huncommitted : persisted.committed = false := by
        by_contra hcommd
        rw [Bool.not_eq_false] at hcommd
        rw [hagrees.intended hcommd] at hdropped
        cases hdropped
      rw [map_nil] at hall
      rw [hall, nil_append, terminalEvents, huncommitted]
      exact ⟨applied.sequence, rfl⟩
    · have hterminals := terminalEvents_numbered task persisted
        (show applied.sequence + 1 ≤ u64Max by omega)
      have hcount : events.length = last := by
        have hlen := congrArg List.length hlast
        rw [length_map, length_range'] at hlen
        exact hlen
      refine ⟨1, ?_⟩
      rw [map_append, length_append, hsequences, hlast, hterminals, hlength, hcount, hnext,
        Nat.add_comm last 1, range'_append_1]

end Agreement

/-- **The terminal event.** For every request, credential and schedule of the provider, of the
    scheduler and of the storage: if the generation of a task is running when the task starts,
    and its receiver closes only because the forwarder fails, then the task ends, and what it
    published agrees with the store. -/
theorem terminal_event_agrees (X : Externals) (uuid : String) (C : Chat.ChatExternals)
    (catalog : Catalog) (task : GenerationTask) (schedule : TaskSchedule) (store : Store)
    (hready : task.Ready store)
    (hrecv : (task.forwarded X uuid C schedule store).result.isOk = true →
      schedule.receiver = none) :
    ∃ «end», executeGenerationTask X uuid C catalog task schedule store = some «end» ∧
      TerminalAgreement task «end» := by
  obtain ⟨hended, hstreamed⟩ := runGeneration_streams C task.request task.credential
    schedule.receiver schedule.generation
  have hcovers : (task.forwarded X uuid C schedule store).Covers task.branchId task.assistant.id
      (task.run C schedule).emitted store :=
    forwardGenerationEvents_covers task.branchId task.assistant.id task.preservePartial
      task.assistant (task.run C schedule).emitted schedule.rounds store
  have hrunning : ∀ row, (task.forwarded X uuid C schedule store).store.generations.find?
      task.request.generationId = some row → row.status = .running := by
    rw [hcovers.generations]
    intro row hrow
    obtain ⟨running, hmem, hid, hstat⟩ := hready.running
    obtain ⟨hrow, hrowId⟩ := find?_eq_some.mp hrow
    have hsame : row = running := eq_of_key hrow hmem (hrowId.trans hid.symm)
    rw [hsame]
    exact hstat
  unfold executeGenerationTask
  cases hrun : (task.run C schedule).ended with
  | panicked => exact absurd hrun hended
  | completed outcome =>
    have happlies := applyGenerationResult_applies task.assistant
      (mergeGenerationAndForwardingResults (.ok outcome)
        (task.forwarded X uuid C schedule store).result) task.preservePartial
    have hopen : (task.forwarded X uuid C schedule store).result.isOk = true →
        (task.run C schedule).emitted.map ChatEvent.sequence = List.range' 1 outcome.lastSequence ∧
          outcome.lastSequence + 2 ≤ u64Max ∧
          outcome.text = emittedText (task.run C schedule).emitted := by
      intro hforw
      have hwhole : runGeneration C task.request task.credential none schedule.generation =
          ⟨.completed outcome, (task.run C schedule).emitted⟩ := by
        rw [← hrun, ← hrecv hforw]
        rfl
      exact runGeneration_completed hwhole
    refine ⟨_, rfl, terminalAgreement hcovers hstreamed happlies
      (persistGenerationTerminal_agrees (happlies.generationId.trans hready.named) happlies.ended
        hrunning) ?_ ?_⟩
    · rintro _ ⟨⟩ hforw
      exact (hopen hforw).2.2
    · intro hforw
      obtain ⟨hnum, hfits, _⟩ := hopen hforw
      refine .inr ⟨outcome.lastSequence, hnum, ?_, hfits⟩
      rw [merge_of_isOk hforw]
      exact saturatingAdd_of_le (by omega)
  | failed failure =>
    have happlies := applyGenerationResult_applies task.assistant
      (mergeGenerationAndForwardingResults (.error failure)
        (task.forwarded X uuid C schedule store).result) task.preservePartial
    refine ⟨_, rfl, terminalAgreement hcovers hstreamed happlies
      (persistGenerationTerminal_agrees (happlies.generationId.trans hready.named) happlies.ended
        hrunning) ?_ ?_⟩
    · intro outcome houtcome
      cases houtcome
    · intro hforw
      have hwhole : runGeneration C task.request task.credential none schedule.generation =
          ⟨.failed failure, (task.run C schedule).emitted⟩ := by
        rw [← hrun, ← hrecv hforw]
        rfl
      rw [merge_of_isOk hforw] at happlies ⊢
      rcases runGeneration_failed hwhole with ⟨hsil, hempty⟩ | ⟨hnum, hfits⟩
      · exact .inl ⟨hsil, happlies.empty failure rfl hempty⟩
      · exact .inr ⟨failure.lastSequence, hnum, saturatingAdd_of_le (by omega), hfits⟩

/-! ### A finalization that is committed and reported as an error -/

def plainTask : GenerationTask where
  branchId := "b"
  request := { Chat.sampleRequest with generationId := "g", conversationId := "c" }
  assistant := plainReply "a" "u" "g"
  credential := none
  preservePartial := true

def misreportedSchedule : TaskSchedule where
  generation :=
    { cancelledBefore := false
      ticks := [.event (.textDelta "hel"), .event (.textDelta "lo")]
      result := .ok .default
      queued := [] }
  receiver := none
  rounds := [.quiet, ⟨[], none, .performed⟩, ⟨[.performed], none, .performed⟩]
  finalize := .misreported (.new "" .storageUnavailable "" true)
  finalizedAt := "t"
  compensate := .performed
  compensatedAt := "t"
  read := .performed

theorem terminal_event_agrees_misreported :
    (executeGenerationTask plainExternals "" Chat.sampleExternals plainCatalog plainTask
      misreportedSchedule (runAll plainExternals Store.empty (twoTurns.take 2))).map
        (fun ended => ended.published.map ChatEvent.kind) =
      some [.generationStarted, .textDelta "hel", .textDelta "lo", .usageUpdated .default,
        .messageCommitted "a" .complete, .generationFinished] ∧
    ∃ «end», executeGenerationTask plainExternals "" Chat.sampleExternals plainCatalog plainTask
        misreportedSchedule (runAll plainExternals Store.empty (twoTurns.take 2)) = some «end» ∧
      TerminalAgreement plainTask «end» :=
  ⟨by decide, terminal_event_agrees plainExternals "" sampleExternals plainCatalog
    plainTask misreportedSchedule (runAll plainExternals Store.empty (twoTurns.take 2))
    ⟨by decide, by decide⟩ fun _ => rfl⟩

end LorePia.Conversations
