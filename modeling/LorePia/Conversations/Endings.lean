import LorePia.Conversations.Steps

namespace LorePia.Conversations

open Lib List Option Table

/-!
# The conversation store — ending a generation

The operations on pending replies: checkpoints, the two terminal transactions, and recovery.
Each is a `Settles`: of no generation, of the one it names, or of all of them.  What selects
the reply differs between them (its identifier, or the whole condition `isPendingOf`); on a
consistent store all of these name the one reply of the running generation (`Loaded`).
-/

variable {generations : Table String GenerationRecord GenerationRecord.id} {catalog : Catalog}
  {row : Message} {g : GenerationRecord → GenerationRecord} {persisted : Store}
  {status : GenerationStatus}

variable {X : Externals} {uuid : String} {store store' : Store}

/-! ### Editing a pending reply -/

/-- Some pending messages get another content or status; the ones of `ended` stop being
    pending. -/
theorem Settles.of_editMessages {ended : String → Prop} (hf : ∀ r, (f r).id = r.id)
    (hmsgs : store'.messages = store.messages.updateWhere p f hf)
    (hbrs : store'.branches = store.branches)
    (hrun : ∀ generation, generation ∈ store'.generations.rows ∧ generation.status = .running ↔
        generation ∈ store.generations.rows ∧ generation.status = .running ∧ ¬ ended generation.id)
    (hp : ∀ row, p row = true → row.status = .pending) (hsame : ∀ row, SameNode row (f row))
    (hended : ∀ row ∈ store.messages.rows, row.status = .pending →
      ((if p row then f row else row).status = .pending ↔
        ∀ id, row.generationId = some id → ¬ ended id)) :
    Settles ended store store' := by
  have hnode : ∀ row, SameNode row (if p row then f row else row) := by
    intro row
    split
    · exact hsame row
    · exact .refl row
  have hmem : ∀ {row'}, row' ∈ store'.messages.rows ↔
      ∃ row ∈ store.messages.rows, (if p row then f row else row) = row' := by
    intro row'
    rw [hmsgs, mem_updateWhere]
  refine {
    kept := ?_
    edited := ?_
    unended := ?_
    pending := ?_
    running := hrun
    heads := ?_
    pendingHeads := ?_
    forks := ?_ }
  · intro row hrow hstat
    exact hmem.mpr ⟨row, hrow, if_neg fun hprow => hstat (hp row hprow)⟩
  · intro row' hrow'
    obtain ⟨row, hrow, rfl⟩ := hmem.mp hrow'
    exact ⟨row, hrow, hnode row, fun hstat => if_neg fun hprow => hstat (hp row hprow)⟩
  · intro row hrow hpend hopen
    exact ⟨_, hmem.mpr ⟨row, hrow, rfl⟩, (hended row hrow hpend).mpr hopen, hnode row⟩
  · intro row' hrow' hpend' id hid
    obtain ⟨row, hrow, rfl⟩ := hmem.mp hrow'
    have hpend : row.status = .pending := by
      by_cases hprow : p row = true
      · exact hp row hprow
      · rwa [if_neg hprow] at hpend'
    exact (hended row hrow hpend).mp hpend' id ((hnode row).generationId.symm.trans hid)
  · intro branch hbr
    rw [hbrs] at hbr
    exact .inl ⟨branch, hbr, rfl, rfl⟩
  · intro branch hbr _ _ _ _ _
    exact ⟨branch, hbrs ▸ hbr, rfl, rfl⟩
  · intro branch hbr
    rw [hbrs] at hbr
    exact .inl ⟨branch, hbr, rfl⟩

theorem isPendingOf_eq_true :
    isPendingOf messageId generationId row = true ↔
      row.id = messageId ∧ row.generationId = some generationId ∧ row.role = .assistant ∧
        row.status = .pending := by
  simp [isPendingOf, and_assoc]

theorem checkpointPendingAssistant_effect
    (h : checkpointPendingAssistant X uuid message store = .ok store') :
    Effect store store' ∧ Enforced X.sqlite store' := by
  obtain ⟨_, h⟩ := guard_ok.mp h
  obtain ⟨generationId, _, ⟨changed, s₁⟩, h₁, h⟩ := steps₂ h
  obtain ⟨_, h⟩ := guard_ok.mp h
  obtain ⟨_, rfl, henf⟩ := updateMessages_eq_ok (execute_ok.mp h₁)
  cases pure_inj h
  refine ⟨.settles (fun _ => False) (.of_editMessages (fun _ => by rfl) rfl rfl ?_ ?_ ?_ ?_), henf⟩
  · simp
  · exact fun row hrow => (isPendingOf_eq_true.mp hrow).2.2.2
  · exact fun row => ⟨rfl, rfl, rfl, rfl, rfl⟩
  · intro row _ hpend
    have hstat : (if isPendingOf message.id generationId row then
        { row with content := message.content } else row).status = row.status := by
      split <;> rfl
    rw [hstat]
    simp [hpend]

/-! ### Ending a generation -/

/-- What stays running when the matching generations get a terminal status. -/
theorem mem_running_updateWhere {f : GenerationRecord → GenerationRecord}
    {hf : ∀ r, (f r).id = r.id} (hterm : ∀ r, (f r).status ≠ .running) :
    generation ∈ (generations.updateWhere q f hf).rows ∧ generation.status = .running ↔
      generation ∈ generations.rows ∧ generation.status = .running ∧ q generation = false := by
  rw [mem_updateWhere]
  constructor
  · rintro ⟨⟨row, hrow, rfl⟩, hrun⟩
    by_cases hq : q row = true
    · rw [if_pos hq] at hrun
      exact absurd hrun (hterm row)
    · rw [if_neg hq] at hrun ⊢
      exact ⟨hrow, hrun, by simpa using hq⟩
  · rintro ⟨hrow, hrun, hq⟩
    exact ⟨⟨generation, hrow, by rw [if_neg (by simp [hq])]⟩, hrun⟩

/-- The generation a terminal call loads, and its pending reply. -/
structure Loaded (store : Store) (assistant : Message) (generationId : String)
    (route : StoredGenerationRoute) (generation : GenerationRecord) (reply : Message) : Prop where
  generation_mem : generation ∈ store.generations.rows
  generation_id : generation.id = generationId
  running : generation.status = .running
  route_branch : route.branch = generation.branchId
  route_conversation : route.conversation = generation.conversationId
  route_user : route.userMessage = generation.userMessageId
  reply_mem : reply ∈ store.messages.rows
  reply_id : reply.id = assistant.id
  pending : reply.status = .pending
  owns : Owns generation reply

theorem exists_loaded (hc : Consistent store)
    (hload : loadRunningGeneration uuid generationId store = .ok route)
    (howner : validateGenerationAssistantOwnership uuid route assistant = .ok u) :
    ∃ generation reply, Loaded store assistant generationId route generation reply := by
  obtain ⟨generation, hfind, rfl⟩ := last_step hload
  rw [okOr_ok, filter_eq_some_iff, find?_eq_some, beq_iff_eq] at hfind
  obtain ⟨⟨hmem, hid⟩, hrun⟩ := hfind
  rw [validateGenerationAssistantOwnership, require_ok] at howner
  obtain ⟨reply, hreply, hpend, howns⟩ := hc.runsPending generation hmem hrun
  have hreplyId : some reply.id = some assistant.id := howns.isAssistant.symm.trans howner.2
  exact ⟨generation, reply, {
    generation_mem := hmem
    generation_id := hid
    running := hrun
    route_branch := rfl
    route_conversation := rfl
    route_user := rfl
    reply_mem := hreply
    reply_id := some.inj hreplyId
    pending := hpend
    owns := howns }⟩

section Ending

variable {assistant : Message} {generationId : String} {route : StoredGenerationRoute}
  {generation : GenerationRecord} {reply : Message}

section

variable (h : Loaded store assistant generationId route generation reply)
include h

section

variable (hc : Consistent store)
include hc

/-- The only pending message of the loaded generation is its reply. -/
theorem Loaded.eq_reply (hrow : row ∈ store.messages.rows)
    (hpend : row.status = .pending) (hid : row.generationId = some generationId) :
    row = reply := by
  obtain ⟨other, hoth, _, howns⟩ := hc.pendingRuns row hrow hpend
  have hsame : some other.id = some generation.id := by
    rw [← howns.ofGeneration, hid, h.generation_id]
  have heq : other = generation := eq_of_key hoth h.generation_mem (some.inj hsame)
  exact (heq ▸ howns).reply_unique h.owns hrow h.reply_mem

section

variable (he : Enforced X.sqlite store)
include he

/-- The condition of a terminal update selects the reply. -/
theorem Loaded.isPendingOf_iff (hrow : row ∈ store.messages.rows) :
    isPendingOf assistant.id generationId row = true ↔ row = reply := by
  rw [isPendingOf_eq_true]
  constructor
  · rintro ⟨_, hid, _, hpend⟩
    exact h.eq_reply hc hrow hpend hid
  · rintro rfl
    have hrole : row.role = .assistant := he.role_of_not_complete hrow (by simp [h.pending])
    exact ⟨h.reply_id, h.owns.ofGeneration.trans (congrArg some h.generation_id), hrole, h.pending⟩

/-- The reply gets its terminal content and status, and the generation a terminal row. -/
theorem Loaded.settles_keep (hf : ∀ r, (f r).id = r.id) (hg : ∀ r, (g r).id = r.id)
    (hmsgs : store'.messages =
      store.messages.updateWhere (isPendingOf assistant.id generationId) f hf)
    (hbrs : store'.branches = store.branches)
    (hgens : store'.generations = store.generations.updateWhere
      (fun row => row.id == generationId && row.status == .running) g hg)
    (hsame : ∀ row, SameNode row (f row)) (hterm : ∀ row, (f row).status ≠ .pending)
    (hstopped : ∀ row, (g row).status ≠ .running) :
    Settles (fun id => id = generationId) store store' := by
  refine .of_editMessages hf hmsgs hbrs ?_ ?_ hsame ?_
  · intro other
    rw [hgens, mem_running_updateWhere hstopped]
    constructor
    · rintro ⟨hmem, hrun, hq⟩
      exact ⟨hmem, hrun, by simpa [hrun] using hq⟩
    · rintro ⟨hmem, hrun, hid⟩
      exact ⟨hmem, hrun, by simpa [hrun] using hid⟩
  · exact fun row hrow => (isPendingOf_eq_true.mp hrow).2.2.2
  · intro row hrow hpend
    by_cases hreply : row = reply
    · -- the reply: terminal now, and its generation is the one that ended
      have hprow := (h.isPendingOf_iff hc he hrow).mpr hreply
      rw [if_pos hprow]
      refine iff_of_false (hterm row) fun hopen => ?_
      exact hopen generationId (isPendingOf_eq_true.mp hprow).2.1 rfl
    · have hprow : ¬ isPendingOf assistant.id generationId row = true :=
        fun hprow => hreply ((h.isPendingOf_iff hc he hrow).mp hprow)
      rw [if_neg hprow]
      refine iff_of_true hpend fun id hid hended => hreply ?_
      exact h.eq_reply hc hrow hpend (hid.trans (congrArg some hended))

/-- The user message of the loaded generation is settled. -/
theorem Loaded.settled_user :
    store.Settled (some route.userMessage) := by
  have hpar := hc.settled_parent he h.reply_mem
  rw [h.owns.belowUser] at hpar
  rw [h.route_user]
  exact hpar

/-- The reply goes, its branch falls back to the user message, and the generation gets a
    terminal row. -/
theorem Loaded.settles_drop (hg : ∀ r, (g r).id = r.id)
    (hp : ∀ row ∈ store.messages.rows, p row = true ↔ row = reply)
    (hmsgs : store'.messages = store.messages.deleteWhere p)
    (hbrs : store'.branches.rows = store.branches.rows.map fun row =>
      if row.id == route.branch && row.conversationId == route.conversation &&
        row.headMessageId == some assistant.id then
        { row with headMessageId := some route.userMessage, updatedAt := now } else row)
    (hgens : store'.generations = (store.generations.updateWhere
      (fun row => row.assistantMessageId.any fun id => (store.messages.find? id).any p)
      (fun row => { row with assistantMessageId := none }) fun _ => rfl).updateWhere
      (fun row => row.id == generationId && row.status == .running) g hg)
    (hstopped : ∀ row, (g row).status ≠ .running) :
    Settles (fun id => id = generationId) store store' := by
  have hkeep : ∀ row ∈ store.messages.rows, row ≠ reply → row ∈ store'.messages.rows := by
    intro row hrow hne
    rw [hmsgs, mem_deleteWhere]
    refine ⟨hrow, ?_⟩
    by_contra hprow
    exact hne ((hp row hrow).mp (by simpa using hprow))
  have hdeleted : ∀ row ∈ store'.messages.rows, row ∈ store.messages.rows ∧ row ≠ reply := by
    intro row hrow
    rw [hmsgs, mem_deleteWhere] at hrow
    refine ⟨hrow.1, fun hreply => ?_⟩
    have hprow : p row = true := (hp row hrow.1).mpr hreply
    rw [hrow.2] at hprow
    cases hprow
  -- the foreign key clears the reply of no other running generation
  have hcleared : ∀ row ∈ store.generations.rows, row.status = .running → row.id ≠ generationId →
      (row.assistantMessageId.any fun id => (store.messages.find? id).any p) = false := by
    intro row hrow hrun hid
    obtain ⟨other, hoth, _, howns⟩ := hc.runsPending row hrow hrun
    have hfind : store.messages.find? other.id = some other := find?_eq_some.mpr ⟨hoth, rfl⟩
    rw [howns.isAssistant, any_some, hfind, any_some]
    by_contra hpother
    have hreply : other = reply := (hp other hoth).mp (by simpa using hpother)
    have hsame : row = generation := (hreply ▸ howns).generation_unique h.owns hrow h.generation_mem
    exact hid (hsame ▸ h.generation_id)
  refine {
    kept := ?_
    edited := ?_
    unended := ?_
    pending := ?_
    running := ?_
    heads := ?_
    pendingHeads := ?_
    forks := ?_ }
  · intro row hrow hstat
    exact hkeep row hrow fun hreply => hstat (hreply ▸ h.pending)
  · intro row hrow
    exact ⟨row, (hdeleted row hrow).1, .refl row, fun _ => rfl⟩
  · intro row hrow hpend hopen
    refine ⟨row, hkeep row hrow fun hreply => ?_, hpend, .refl row⟩
    refine hopen generationId ?_ rfl
    rw [hreply, h.owns.ofGeneration, h.generation_id]
  · rintro row hrow hpend id hid rfl
    obtain ⟨hmem, hne⟩ := hdeleted row hrow
    exact hne (h.eq_reply hc hmem hpend hid)
  · intro other
    rw [hgens, mem_running_updateWhere hstopped, mem_updateWhere]
    constructor
    · rintro ⟨⟨row, hrow, rfl⟩, hrun, hq⟩
      have hstat : row.status = .running := by
        split at hrun
        · exact hrun
        · exact hrun
      have hid : row.id ≠ generationId := by
        intro hid
        split at hq
        · simp [hid, hstat] at hq
        · simp [hid, hstat] at hq
      rw [hcleared row hrow hstat hid]
      exact ⟨hrow, hstat, hid⟩
    · rintro ⟨hmem, hrun, hid⟩
      refine ⟨⟨other, hmem, ?_⟩, hrun, by simpa [hrun] using hid⟩
      rw [hcleared other hmem hrun hid]
      rfl
  · rw [hbrs]
    refine forall_mem_map.mpr fun branch hbr => ?_
    split
    · exact .inr (h.settled_user hc he)
    · exact .inl ⟨branch, hbr, rfl, rfl⟩
  · intro branch hbr row hrow hpend hhead hopen
    rw [hbrs]
    refine ⟨branch, mem_map.mpr ⟨branch, hbr, if_neg ?_⟩, rfl, rfl⟩
    simp only [Bool.and_eq_true, beq_iff_eq]
    rintro ⟨_, hexp⟩
    -- its head would be the reply, whose generation ended
    have hreply : row = reply := by
      refine eq_of_key hrow h.reply_mem ?_
      rw [h.reply_id]
      exact some.inj (hhead.symm.trans hexp)
    refine hopen generationId ?_ rfl
    rw [hreply, h.owns.ofGeneration, h.generation_id]
  · rw [hbrs]
    refine forall_mem_map.mpr fun branch hbr => ?_
    split
    · exact .inl ⟨branch, hbr, rfl⟩
    · exact .inl ⟨branch, hbr, rfl⟩

end

end

end

theorem messageStatusToGenerationStatus_ne {status : MessageStatus} (h : status ≠ .pending) :
    messageStatusToGenerationStatus status ≠ .running := by
  cases status with
  | pending => exact absurd rfl h
  | complete => simp [messageStatusToGenerationStatus]
  | cancelled => simp [messageStatusToGenerationStatus]
  | failed => simp [messageStatusToGenerationStatus]

/-- Both ways to end a reply select it by a condition that holds of no other message. -/
theorem Loaded.id_iff (h : Loaded store assistant generationId route generation reply) (hrow : row ∈ store.messages.rows) :
    (row.id == assistant.id) = true ↔ row = reply := by
  rw [beq_iff_eq]
  constructor
  · intro hid
    exact eq_of_key hrow h.reply_mem (hid.trans h.reply_id.symm)
  · rintro rfl
    exact h.reply_id

/-- What both terminal transactions do around the reply: they load the running generation, and
    give it a terminal row afterwards. -/
structure Ends (X : Externals) (uuid : String) (assistant : Message) (status : GenerationStatus)
    (generationId : String) (route : StoredGenerationRoute) (store persisted store' : Store) :
    Prop where
  named : assistant.generationId = some generationId
  load : loadRunningGeneration uuid generationId store = .ok route
  owner : validateGenerationAssistantOwnership uuid route assistant = .ok ()
  messages : store'.messages = persisted.messages
  branches : store'.branches = persisted.branches
  generations : ∃ (g : GenerationRecord → GenerationRecord) (hg : ∀ r, (g r).id = r.id),
    (∀ row, (g row).status = status) ∧ store'.generations = persisted.generations.updateWhere
        (fun row => row.id == generationId && row.status == .running) g hg
  enforced : Enforced X.sqlite store'

theorem finalizeGenerationWithProtocolState_ends
    (h : finalizeGenerationWithProtocolState X uuid catalog assistant usage opaqueReasoningState
      errorCode keepAssistant now store = .ok store') :
    assistant.status ≠ .pending ∧ ∃ generationId route persisted,
      persistTerminalAssistant X uuid assistant generationId route now keepAssistant store =
        .ok persisted ∧
      Ends X uuid assistant (messageStatusToGenerationStatus assistant.status) generationId route
        store persisted store' := by
  obtain ⟨⟨_, hterm⟩, _, h⟩ := guards₂ h
  obtain ⟨generationId, hnamed, h⟩ := bind_ok.mp h
  obtain ⟨_, _, _, h⟩ := rest₃ h
  obtain ⟨_, _, _, h⟩ := rest₃ h
  obtain ⟨route, hload, _, howner, _, _, h⟩ := steps₃ h
  obtain ⟨persisted, hpers, ⟨_, s₂⟩, hupdate, h⟩ := steps₂ h
  obtain ⟨_, rfl, _⟩ := updateGenerations_eq_ok (execute_ok.mp hupdate)
  obtain ⟨_, rfl, henf⟩ := touchConversation_ok (execute_ok.mp h)
  exact ⟨hterm, generationId, route, persisted, hpers, {
    named := okOr_ok.mp hnamed
    load := hload
    owner := howner
    messages := rfl
    branches := rfl
    generations := ⟨_, (fun _ => by rfl), (fun _ => by rfl), rfl⟩
    enforced := henf }⟩

theorem failGenerationAfterFinalizeError_ends
    (h : failGenerationAfterFinalizeError X uuid catalog assistant keepAssistant now store =
      .ok store') :
    ∃ generationId route persisted,
      compensateTerminalAssistant X uuid assistant generationId route now keepAssistant store =
        .ok persisted ∧
      Ends X uuid assistant .failed generationId route store persisted store' := by
  obtain ⟨_, h⟩ := guard_ok.mp h
  obtain ⟨generationId, hnamed, route, hload, _, howner, h⟩ := steps₃ h
  obtain ⟨persisted, hcomp, ⟨_, s₂⟩, hupdate, h⟩ := steps₂ h
  obtain ⟨_, h⟩ := guard_ok.mp h
  obtain ⟨_, rfl, _⟩ := updateGenerations_eq_ok (execute_ok.mp hupdate)
  obtain ⟨_, rfl, henf⟩ := touchConversation_ok (execute_ok.mp h)
  exact ⟨generationId, route, persisted, hcomp, {
    named := okOr_ok.mp hnamed
    load := hload
    owner := howner
    messages := rfl
    branches := rfl
    generations := ⟨_, (fun _ => by rfl), (fun _ => by rfl), rfl⟩
    enforced := henf }⟩

/-- With the reply dropped: what the branch update and the deletion leave. -/
theorem Ends.settles_drop
    (h : Ends X uuid assistant status generationId route store persisted store')
    (hc : Consistent store) (he : Enforced X.sqlite store) (hstat : status ≠ .running)
    (hloaded : Loaded store assistant generationId route generation reply)
    (hp : ∀ row ∈ store.messages.rows, p row = true ↔ row = reply)
    (hmove : moveBranchHead X uuid route.branch route.conversation (some route.userMessage)
      (some assistant.id) now store = .ok (changed, s₁))
    (hdelete : ∃ n, execute X uuid (s₁.deleteMessages X.sqlite p) = .ok (n, persisted)) :
    Settles (fun id => id = generationId) store store' := by
  obtain ⟨_, hdelete⟩ := hdelete
  obtain ⟨⟨branches, rfl, hbrs⟩, _, _⟩ := moveBranchHead_ok hmove
  obtain ⟨_, rfl, _⟩ := deleteMessages_eq_ok (execute_ok.mp hdelete)
  obtain ⟨g, hg, hgstatus, hgens⟩ := h.generations
  have hheads := hbrs
  rw [show branches = store'.branches from h.branches.symm] at hheads
  refine hloaded.settles_drop hc he hg hp h.messages hheads hgens fun row => ?_
  rw [hgstatus]
  exact hstat

/-- With the reply kept: it gets a terminal content and status. -/
theorem Ends.settles_keep {hf : ∀ r, (f r).id = r.id}
    (h : Ends X uuid assistant status generationId route store persisted store')
    (hc : Consistent store) (he : Enforced X.sqlite store) (hstat : status ≠ .running)
    (hloaded : Loaded store assistant generationId route generation reply)
    (hupdate : execute X uuid (store.updateMessages X.sqlite
      (isPendingOf assistant.id generationId) f hf) = .ok (changed, persisted))
    (hsame : ∀ row, SameNode row (f row)) (hterm : ∀ row, (f row).status ≠ .pending) :
    Settles (fun id => id = generationId) store store' := by
  obtain ⟨_, rfl, _⟩ := updateMessages_eq_ok (execute_ok.mp hupdate)
  obtain ⟨g, hg, hgstatus, hgens⟩ := h.generations
  refine hloaded.settles_keep hc he hf hg h.messages h.branches hgens hsame hterm ?_
  intro row
  rw [hgstatus]
  exact hstat

theorem finalizeGenerationWithProtocolState_effect (hc : Consistent store)
    (he : Enforced X.sqlite store)
    (h : finalizeGenerationWithProtocolState X uuid catalog assistant usage opaqueReasoningState
      errorCode keepAssistant now store = .ok store') :
    Effect store store' ∧ Enforced X.sqlite store' := by
  obtain ⟨hterm, generationId, route, persisted, hpers, hends⟩ :=
    finalizeGenerationWithProtocolState_ends h
  obtain ⟨generation, reply, hloaded⟩ := exists_loaded hc hends.load hends.owner
  have hstopped := messageStatusToGenerationStatus_ne hterm
  refine ⟨.settles (fun id => id = generationId) ?_, hends.enforced⟩
  cases keepAssistant with
  | true =>
    obtain ⟨⟨_, s₁⟩, hupdate, _, hpers⟩ := step_guard hpers
    cases pure_inj hpers
    exact hends.settles_keep hc he hstopped hloaded hupdate (fun _ => ⟨rfl, rfl, rfl, rfl, rfl⟩)
      fun _ => hterm
  | false =>
    obtain ⟨⟨_, s₁⟩, hmove, ⟨_, s₂⟩, hdelete, hpers⟩ := steps₂ hpers
    cases pure_inj hpers
    exact hends.settles_drop hc he hstopped hloaded (fun row hrow => hloaded.id_iff hrow) hmove
      ⟨_, hdelete⟩

theorem failGenerationAfterFinalizeError_effect (hc : Consistent store)
    (he : Enforced X.sqlite store)
    (h : failGenerationAfterFinalizeError X uuid catalog assistant keepAssistant now store =
      .ok store') : Effect store store' ∧ Enforced X.sqlite store' := by
  obtain ⟨generationId, route, persisted, hcomp, hends⟩ := failGenerationAfterFinalizeError_ends h
  obtain ⟨generation, reply, hloaded⟩ := exists_loaded hc hends.load hends.owner
  refine ⟨.settles (fun id => id = generationId) ?_, hends.enforced⟩
  cases keepAssistant with
  | true =>
    obtain ⟨⟨_, s₁⟩, hupdate, _, hcomp⟩ := step_guard hcomp
    cases pure_inj hcomp
    exact hends.settles_keep hc he (by simp) hloaded hupdate
      (fun _ => ⟨rfl, rfl, rfl, rfl, rfl⟩) fun _ => by simp
  | false =>
    obtain ⟨⟨_, s₁⟩, hmove, _, hcomp⟩ := step_guard hcomp
    obtain ⟨⟨_, s₂⟩, hdelete, _, hcomp⟩ := step_guard hcomp
    cases pure_inj hcomp
    exact hends.settles_drop hc he (by simp) hloaded
      (fun row hrow => hloaded.isPendingOf_iff hc he hrow) hmove ⟨_, hdelete⟩

end Ending

/-! ### Recovery -/

theorem isPendingId_eq_true {id : String} : store.isPendingId id = true ↔
    ∃ row ∈ store.messages.rows, row.id = id ∧ row.role = .assistant ∧ row.status = .pending := by
  rw [Store.isPendingId, Option.any_eq_true]
  constructor
  · rintro ⟨row, hfind, hpend⟩
    obtain ⟨hmem, hid⟩ := Table.find?_eq_some.mp hfind
    exact ⟨row, hmem, hid, by simpa [isPendingAssistant] using hpend⟩
  · rintro ⟨row, hmem, hid, hrole, hpend⟩
    exact ⟨row, find?_eq_some.mpr ⟨hmem, hid⟩, by simp [isPendingAssistant, hrole, hpend]⟩

/-- Skipping a pending reply ends at its user message. -/
theorem skipPending_cases (hc : Consistent store) (he : Enforced X.sqlite store)
    (id : Option String) :
    (store.skipPending id = id ∧ ∀ i, id = some i → store.isPendingId i = false) ∨
      (∃ i, id = some i ∧ store.isPendingId i = true ∧ store.Settled (store.skipPending id)) := by
  unfold Store.skipPending
  split
  case isTrue hpend =>
    right
    obtain ⟨i, rfl, hpend⟩ := any_eq_true _ _ |>.mp hpend
    refine ⟨i, rfl, hpend, ?_⟩
    obtain ⟨row, hrow, rfl, _, _⟩ := isPendingId_eq_true.mp hpend
    have hfind : store.messages.find? row.id = some row := find?_eq_some.mpr ⟨hrow, rfl⟩
    rw [bind_some, hfind, bind_some]
    exact hc.settled_parent he hrow
  case isFalse hpend =>
    left
    refine ⟨rfl, ?_⟩
    rintro i rfl
    simpa using hpend

/-- Recovery leaves no generation running. -/
theorem not_running_updateWhere
    (h : generation ∈ (generations.updateWhere (fun row => row.status == .running)
      (fun row => { row with status := .cancelled, finishedAt := some recoveredAt })
      fun _ => rfl).rows) : generation.status ≠ .running := by
  intro hrun
  obtain ⟨_, hstat, hq⟩ := (mem_running_updateWhere (by simp)).mp ⟨h, hrun⟩
  simp [hstat] at hq

/-- Clearing the reply of a generation keeps its status. -/
theorem not_running_clear (h : ∀ generation ∈ generations.rows, generation.status ≠ .running)
    (hmem : generation ∈ (generations.updateWhere q
      (fun row => { row with assistantMessageId := none }) fun _ => rfl).rows) :
    generation.status ≠ .running := by
  obtain ⟨row, hrow, rfl⟩ := mem_updateWhere.mp hmem
  have hstat : row.status ≠ .running := h row hrow
  split
  · exact hstat
  · exact hstat

section

variable (hc : Consistent store)
include hc

/-- Recovery that keeps partial replies: every pending reply is cancelled. -/
theorem Consistent.recover_preserve
    (hmsgs : store'.messages = store.messages.updateWhere
      (fun row => row.status == .pending) (fun row => { row with status := .cancelled })
      fun _ => rfl) (hbrs : store'.branches = store.branches)
    (hrun : ∀ generation ∈ store'.generations.rows, generation.status ≠ .running) :
    Settles (fun _ => True) store store' := by
  refine .of_editMessages (fun _ => by rfl) hmsgs hbrs ?_ ?_ ?_ ?_
  · intro generation
    constructor
    · rintro ⟨hmem, hstat⟩
      exact absurd hstat (hrun generation hmem)
    · rintro ⟨_, _, hopen⟩
      exact absurd trivial hopen
  · intro row hrow
    simpa using hrow
  · exact fun row => ⟨rfl, rfl, rfl, rfl, rfl⟩
  · intro row hrow hpend
    rw [if_pos (by simp [hpend])]
    refine iff_of_false (by simp) fun hopen => ?_
    obtain ⟨generation, _, _, howns⟩ := hc.pendingRuns row hrow hpend
    exact hopen generation.id howns.ofGeneration trivial

/-- Recovery that drops partial replies: every pending reply goes, and the branches fall back
    to the user messages. -/
theorem Consistent.recover_discard (he : Enforced X.sqlite store)
    (hmsgs : ∀ row, row ∈ store'.messages.rows ↔
      row ∈ store.messages.rows ∧ isPendingAssistant row = false)
    (hbrs : store'.branches.rows = store.branches.rows.map fun row =>
      if row.headMessageId.any store.isPendingId || row.forkMessageId.any store.isPendingId then
        { row with
          headMessageId := store.skipPending row.headMessageId
          forkMessageId := store.skipPending row.forkMessageId
          updatedAt := recoveredAt }
      else row) (hrun : ∀ generation ∈ store'.generations.rows, generation.status ≠ .running) :
    Settles (fun _ => True) store store' := by
  have hgone : ∀ row ∈ store'.messages.rows, row.status ≠ .pending := by
    intro row hrow hpend
    obtain ⟨hmem, hnot⟩ := (hmsgs row).mp hrow
    have hrole : row.role = .assistant := he.role_of_not_complete hmem (by simp [hpend])
    simp [isPendingAssistant, hrole, hpend] at hnot
  have howned : ∀ row ∈ store.messages.rows, row.status = .pending →
      ¬ ∀ id, row.generationId = some id → ¬ True := by
    intro row hrow hpend hopen
    obtain ⟨generation, _, _, howns⟩ := hc.pendingRuns row hrow hpend
    exact hopen generation.id howns.ofGeneration trivial
  refine {
    kept := ?_
    edited := ?_
    unended := ?_
    pending := ?_
    running := ?_
    heads := ?_
    pendingHeads := ?_
    forks := ?_ }
  · intro row hrow hstat
    exact (hmsgs row).mpr ⟨hrow, by simp [isPendingAssistant, hstat]⟩
  · intro row hrow
    exact ⟨row, ((hmsgs row).mp hrow).1, .refl row, fun _ => rfl⟩
  · intro row hrow hpend hopen
    exact absurd hopen (howned row hrow hpend)
  · intro row hrow hpend
    exact absurd hpend (hgone row hrow)
  · intro generation
    constructor
    · rintro ⟨hmem, hstat⟩
      exact absurd hstat (hrun generation hmem)
    · rintro ⟨_, _, hopen⟩
      exact absurd trivial hopen
  · rw [hbrs]
    refine forall_mem_map.mpr fun branch hbr => ?_
    split
    · rcases skipPending_cases hc he branch.headMessageId with ⟨hsame, _⟩ | ⟨_, _, _, hsett⟩
      · exact .inl ⟨branch, hbr, rfl, hsame.symm⟩
      · exact .inr hsett
    · exact .inl ⟨branch, hbr, rfl, rfl⟩
  · intro branch hbr row hrow hpend _ hopen
    exact absurd hopen (howned row hrow hpend)
  · rw [hbrs]
    refine forall_mem_map.mpr fun branch hbr => ?_
    split
    · rcases skipPending_cases hc he branch.forkMessageId with ⟨hsame, _⟩ | ⟨_, _, _, hsett⟩
      · exact .inl ⟨branch, hbr, hsame.symm⟩
      · exact .inr hsett
    · exact .inl ⟨branch, hbr, rfl⟩

/-- No row hangs below a pending reply, so re-parenting changes nothing. -/
theorem Consistent.mem_reparent (hf : ∀ r, (f r).id = r.id) :
    row ∈ (store.messages.updateWhere (fun row => row.parentId.any store.isPendingId) f hf).rows ↔
      row ∈ store.messages.rows := by
  have hsame : ∀ row ∈ store.messages.rows,
      (if (row.parentId.any store.isPendingId) = true then f row else row) = row := by
    intro row hrow
    refine if_neg fun hany => ?_
    obtain ⟨id, hid, hpend⟩ := any_eq_true _ _ |>.mp hany
    obtain ⟨parent, hpar, rfl, _, hstat⟩ := isPendingId_eq_true.mp hpend
    exact hc.childless parent hpar hstat row hrow hid
  rw [mem_updateWhere]
  constructor
  · rintro ⟨x, hx, rfl⟩
    rw [hsame x hx]
    exact hx
  · intro hrow
    exact ⟨row, hrow, hsame row hrow⟩

theorem applyRecoveryTransaction_effect (he : Enforced X.sqlite store)
    (h : applyRecoveryTransaction X uuid catalog preservePartialGenerations recoveredAt store =
      .ok store') : Effect store store' ∧ Enforced X.sqlite store' := by
  obtain ⟨⟨_, s₁⟩, hupdate, h⟩ := bind_ok.mp h
  obtain ⟨_, rfl, _⟩ := updateGenerations_eq_ok (execute_ok.mp hupdate)
  cases preservePartialGenerations with
  | true =>
    obtain ⟨⟨_, s₂⟩, hmsgs, h⟩ := bind_ok.mp h
    obtain ⟨_, rfl, henf⟩ := updateMessages_eq_ok (execute_ok.mp hmsgs)
    cases pure_inj h
    exact ⟨.settles _ (hc.recover_preserve rfl rfl fun _ => not_running_updateWhere), henf⟩
  | false =>
    obtain ⟨⟨_, s₂⟩, hbrs, ⟨_, s₃⟩, hreparent, ⟨_, s₄⟩, hdelete, h⟩ := steps₃ h
    obtain ⟨_, rfl, _⟩ := updateBranches_eq_ok (execute_ok.mp hbrs)
    obtain ⟨_, rfl, _⟩ := updateMessages_eq_ok (execute_ok.mp hreparent)
    obtain ⟨_, rfl, henf⟩ := deleteMessages_eq_ok (execute_ok.mp hdelete)
    cases pure_inj h
    refine ⟨.settles _ (hc.recover_discard he (fun row => ?_) rfl fun generation hmem => ?_), henf⟩
    · rw [mem_deleteWhere]
      exact and_congr_left fun _ => hc.mem_reparent fun _ => by rfl
    · exact not_running_clear (fun _ => not_running_updateWhere) hmem

end

end LorePia.Conversations
