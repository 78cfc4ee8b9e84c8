import LorePia.Conversations.Runs

namespace LorePia.Conversations

open Lib List Bool Table

/-!
# The conversation store — retained reasoning state

What the rows of a reachable store say about reasoning state: every reply is the reply of the
generation it names, and a generation that retains state is a completed one with full
provenance, whose states have the format of its family and keep the limits of one generation.

* one lemma for each statement that touches messages or generations;
* one for each operation that starts or ends a generation;
* `retentive_of_reachable` — the run lemma.
-/

variable {catalog : Catalog} {generation : GenerationRecord} {route : StoredGenerationRoute}
  {state : ConversationState}

/-- The generation a reply names has it as its reply, in the same conversation. -/
def Store.Owned (store : Store) (row : Message) : Prop :=
  ∃ generation ∈ store.generations.rows, row.generationId = some generation.id ∧
    generation.assistantMessageId = some row.id ∧ generation.conversationId = row.conversationId

/-- What holds of a generation that retains reasoning state. -/
structure RetainsState (X : Externals) (generation : GenerationRecord) : Prop where
  complete : generation.status = .complete
  route : generation.modelRouteId.isSome = true
  preset : generation.generationPresetId.isSome = true
  format : ∃ family, generation.providerFamily = some family ∧
    ∀ state ∈ generation.opaqueReasoningState, matchesFamily family state = true
  limits : validateOpaqueReasoningStates X.sizes generation.opaqueReasoningState = .ok ()

structure Retentive (X : Externals) (store : Store) : Prop where
  owned : ∀ row ∈ store.messages.rows, row.role = .assistant → store.Owned row
  retained : ∀ generation ∈ store.generations.rows, generation.opaqueReasoningState ≠ [] →
    RetainsState X generation

theorem Retentive.empty (X : Externals) : Retentive X Store.empty where
  owned := fun _ h => (not_mem_nil h).elim
  retained := fun _ h => (not_mem_nil h).elim

variable {X : Externals} {store store' : Store}

/-! ### Statements -/

/-- Nothing happens to messages and generations. -/
theorem Retentive.of_eq (h : Retentive X store) (hmsgs : store'.messages = store.messages)
    (hgens : store'.generations = store.generations) : Retentive X store' where
  owned := by
    intro row hrow hrole
    rw [hmsgs] at hrow
    obtain ⟨generation, hmem, howned⟩ := h.owned row hrow hrole
    exact ⟨generation, by rw [hgens]; exact hmem, howned⟩
  retained := by
    rw [hgens]
    exact h.retained

/-- Messages are edited; the generation of a row stays the one it names. -/
theorem Retentive.updateMessages {f : Message → Message}
    {hf : ∀ r, (f r).id = r.id} (h : Retentive X store)
    (hrun : store.updateMessages X.sqlite p f hf = .ok (changed, store'))
    (hrole : ∀ row, (f row).role = row.role) (hgen : ∀ row, (f row).generationId = row.generationId)
    (hconv : ∀ row, (f row).conversationId = row.conversationId) :
    Retentive X store' := by
  obtain ⟨_, rfl, _⟩ := updateMessages_eq_ok hrun
  refine ⟨?_, h.retained⟩
  intro row' hrow' hasst
  rw [mem_updateWhere] at hrow'
  obtain ⟨row, hrow, rfl⟩ := hrow'
  have hsame : ∀ edited : Message, edited.role = row.role →
      edited.generationId = row.generationId → edited.id = row.id →
      edited.conversationId = row.conversationId → edited.role = .assistant →
      store.Owned edited := by
    intro edited hr hg hi hc ha
    obtain ⟨generation, hmem, hnamed, hreply, hin⟩ := h.owned row hrow (hr.symm.trans ha)
    exact ⟨generation, hmem, hg.trans hnamed, by rw [hreply, hi], by rw [hin, hc]⟩
  by_cases hp : p row = true
  · rw [if_pos hp] at hasst ⊢
    exact hsame _ (hrole row) (hgen row) (hf row) (hconv row) hasst
  · rw [if_neg hp] at hasst ⊢
    exact hsame _ rfl rfl rfl rfl hasst

/-- Messages are deleted, and their generations lose them. -/
theorem Retentive.deleteMessages (h : Retentive X store)
    (hrun : store.deleteMessages X.sqlite p = .ok (changed, store')) : Retentive X store' := by
  obtain ⟨_, rfl, _⟩ := deleteMessages_eq_ok hrun
  constructor
  · intro row hrow hasst
    obtain ⟨hmem, hkept⟩ := mem_deleteWhere.mp hrow
    obtain ⟨generation, hgen, hnamed, hreply, hin⟩ := h.owned row hmem hasst
    refine ⟨generation, ?_, hnamed, hreply, hin⟩
    rw [mem_updateWhere]
    refine ⟨generation, hgen, if_neg ?_⟩
    -- the reply of this generation is the row itself, which stays
    rw [hreply, Option.any_some, find?_eq_some.mpr ⟨hmem, rfl⟩, Option.any_some, hkept]
    simp
  · intro generation hgen hne
    rw [mem_updateWhere] at hgen
    obtain ⟨row, hrow, rfl⟩ := hgen
    split at hne
    case isTrue hany =>
      rw [if_pos hany]
      have hretained := h.retained row hrow hne
      exact ⟨hretained.complete, hretained.route, hretained.preset, hretained.format,
        hretained.limits⟩
    case isFalse hany =>
      rw [if_neg hany]
      exact h.retained row hrow hne

/-- An update of generations checks the guard on each new row. -/
theorem updateGenerations_guard {p : GenerationRecord → Bool} {hf : ∀ r, (f r).id = r.id}
    (hrun : store.updateGenerations X.sqlite catalog p f hf = .ok (changed, store'))
    {row : GenerationRecord} (hrow : row ∈ store.generations.rows) (hp : p row = true) :
    (f row).protocolStateGuard catalog = true := by
  obtain ⟨hguard, _⟩ := guard_ok.mp hrun
  rw [all_eq_true] at hguard
  exact hguard row (mem_filter.mpr ⟨hrow, hp⟩)

/-- Generations are edited; their replies stay, and what they retain is as it should be. -/
theorem Retentive.updateGenerations {p : GenerationRecord → Bool} {hf : ∀ r, (f r).id = r.id}
    (h : Retentive X store)
    (hrun : store.updateGenerations X.sqlite catalog p f hf = .ok (changed, store'))
    (hreply : ∀ row, (f row).assistantMessageId = row.assistantMessageId)
    (hconv : ∀ row, (f row).conversationId = row.conversationId)
    (hretained : ∀ row ∈ store.generations.rows, p row = true →
      (f row).opaqueReasoningState ≠ [] → RetainsState X (f row)) : Retentive X store' := by
  obtain ⟨_, rfl, _⟩ := updateGenerations_eq_ok hrun
  constructor
  · intro row hrow hasst
    obtain ⟨generation, hmem, hnamed, hown, hin⟩ := h.owned row hrow hasst
    refine ⟨if p generation then f generation else generation, ?_, ?_⟩
    · rw [mem_updateWhere]
      exact ⟨generation, hmem, rfl⟩
    by_cases hp : p generation = true
    · rw [if_pos hp]
      exact ⟨by rw [hf]; exact hnamed, by rw [hreply]; exact hown, by rw [hconv]; exact hin⟩
    · rw [if_neg hp]
      exact ⟨hnamed, hown, hin⟩
  · intro generation hgen hne
    rw [mem_updateWhere] at hgen
    obtain ⟨row, hrow, rfl⟩ := hgen
    by_cases hp : p row = true
    · rw [if_pos hp] at hne ⊢
      exact hretained row hrow hp hne
    · rw [if_neg hp] at hne ⊢
      exact h.retained row hrow hne

/-- A generation is started: its row owns the new reply, and retains nothing yet. -/
theorem Retentive.starts
    (h : Retentive X store) (hs : Starts user assistant generation store store')
    (hempty : generation.opaqueReasoningState = []) : Retentive X store' := by
  constructor
  · intro row hrow hasst
    rcases hs.mem_messages.mp hrow with hrow | rfl | rfl
    · obtain ⟨owner, hmem, howned⟩ := h.owned row hrow hasst
      exact ⟨owner, hs.mem_generations.mpr (.inl hmem), howned⟩
    · rw [hs.userRole] at hasst
      cases hasst
    · exact ⟨generation, hs.mem_generations.mpr (.inr rfl), hs.owns.ofGeneration,
        hs.owns.isAssistant, hs.owns.inConversation.symm⟩
  · intro row hrow hne
    rcases hs.mem_generations.mp hrow with hrow | rfl
    · exact h.retained row hrow hne
    · exact absurd hempty hne

/-! ### Starting a generation -/

theorem validateGenerationAppend_retains_nothing
    (h : validateGenerationAppend uuid branchId expectedHead user assistant generation = .ok u) :
    generation.opaqueReasoningState = [] := by
  obtain ⟨_, _, h⟩ := rest₂ h
  obtain ⟨⟨_, _, hempty⟩, _⟩ := guard_ok.mp h
  exact hempty

theorem appendGeneration_retentive (hr : Retentive X store)
    (h : appendGeneration X uuid catalog branchId expectedHead user assistant generation now store =
      .ok store') : Retentive X store' := by
  have hstarts := (appendGeneration_effect h).1
  obtain ⟨_, hval, _⟩ := bind_ok.mp h
  exact hr.starts hstarts (validateGenerationAppend_retains_nothing hval)

theorem appendMessageGenerationAction_retentive (hr : Retentive X store)
    (hc : Consistent store) (he : Enforced X.sqlite store)
    (h : appendMessageGenerationAction X uuid catalog sourceBranchId expectedSourceHead
      targetMessageId action branch user assistant generation now store = .ok store') :
    Retentive X store' := by
  have hstarts := (appendMessageGenerationAction_effect hc he h).1
  obtain ⟨_, hval, _⟩ := bind_ok.mp h
  exact hr.starts hstarts (validateGenerationAppend_retains_nothing hval)

/-! ### Ending a generation -/

/-- The statements on the reply of a generation that ends: the generations keep their families. -/
structure Persists (X : Externals) (store persisted : Store) : Prop where
  retentive : Retentive X persisted
  families : ∀ row ∈ persisted.generations.rows, ∃ row₀ ∈ store.generations.rows,
    row.id = row₀.id ∧ row.providerFamily = row₀.providerFamily

section

variable (hr : Retentive X store)
include hr

theorem moveBranchHead_retentive
    (h : moveBranchHead X uuid branchId conversationId newHead expectedHead now store =
      .ok (changed, store')) :
    Retentive X store' ∧ store'.generations = store.generations := by
  obtain ⟨⟨branches, rfl, _⟩, _, _⟩ := moveBranchHead_ok h
  exact ⟨hr.of_eq rfl rfl, rfl⟩

theorem deleteMessages_persists
    (h : store.deleteMessages X.sqlite p = .ok (changed, store')) : Persists X store store' := by
  refine ⟨hr.deleteMessages h, ?_⟩
  obtain ⟨_, rfl, _⟩ := deleteMessages_eq_ok h
  intro row hrow
  rw [mem_updateWhere] at hrow
  obtain ⟨row₀, hrow₀, rfl⟩ := hrow
  refine ⟨row₀, hrow₀, ?_⟩
  split
  · exact ⟨rfl, rfl⟩
  · exact ⟨rfl, rfl⟩

theorem updateMessages_persists {f : Message → Message} {hf : ∀ r, (f r).id = r.id}
    (h : store.updateMessages X.sqlite p f hf = .ok (changed, store'))
    (hrole : ∀ row, (f row).role = row.role) (hgen : ∀ row, (f row).generationId = row.generationId)
    (hconv : ∀ row, (f row).conversationId = row.conversationId) :
    Persists X store store' := by
  refine ⟨hr.updateMessages h hrole hgen hconv, ?_⟩
  obtain ⟨_, rfl, _⟩ := updateMessages_eq_ok h
  exact fun row hrow => ⟨row, hrow, rfl, rfl⟩

theorem persistTerminalAssistant_persists
    (h : persistTerminalAssistant X uuid assistant generationId route finishedAt keepAssistant
      store = .ok store') : Persists X store store' := by
  cases keepAssistant with
  | true =>
    obtain ⟨⟨_, s₁⟩, hupdate, _, h⟩ := step_guard h
    cases pure_inj h
    exact updateMessages_persists hr (execute_ok.mp hupdate) (fun _ => by rfl) (fun _ => by rfl)
      fun _ => by rfl
  | false =>
    obtain ⟨⟨_, s₁⟩, hmove, ⟨_, s₂⟩, hdelete, h⟩ := steps₂ h
    cases pure_inj h
    obtain ⟨hr₁, hgens⟩ := moveBranchHead_retentive hr hmove
    have hper := deleteMessages_persists hr₁ (execute_ok.mp hdelete)
    exact ⟨hper.retentive, hgens ▸ hper.families⟩

theorem compensateTerminalAssistant_persists
    (h : compensateTerminalAssistant X uuid assistant generationId route finishedAt keepAssistant
      store = .ok store') : Persists X store store' := by
  cases keepAssistant with
  | true =>
    obtain ⟨⟨_, s₁⟩, hupdate, _, h⟩ := step_guard h
    cases pure_inj h
    exact updateMessages_persists hr (execute_ok.mp hupdate) (fun _ => by rfl) (fun _ => by rfl)
      fun _ => by rfl
  | false =>
    obtain ⟨⟨_, s₁⟩, hmove, _, h⟩ := step_guard h
    obtain ⟨⟨_, s₂⟩, hdelete, _, h⟩ := step_guard h
    cases pure_inj h
    obtain ⟨hr₁, hgens⟩ := moveBranchHead_retentive hr hmove
    have hper := deleteMessages_persists hr₁ (execute_ok.mp hdelete)
    exact ⟨hper.retentive, hgens ▸ hper.families⟩

end

/-- A list of states that may be written is empty, or has the format of the family and keeps the
    limits. -/
theorem serializeOpaqueReasoningStateForFamily_ok
    (h : serializeOpaqueReasoningStateForFamily X uuid providerFamily states = .ok states') :
    states' = states ∧ (states ≠ [] → (∃ family, providerFamily = some family ∧
        ∀ state ∈ states, matchesFamily family state = true) ∧
      validateOpaqueReasoningStates X.sizes states = .ok ()) := by
  obtain ⟨hmatches, h⟩ := guard_ok.mp h
  refine ⟨serializeOpaqueReasoningState_ok h, fun hne => ?_⟩
  rw [serializeOpaqueReasoningState, if_neg hne] at h
  obtain ⟨_, hval, _⟩ := bind_ok.mp h
  refine ⟨?_, mapError_ok.mp hval⟩
  rw [opaqueReasoningStateMatchesProviderFamily, or_eq_true, List.isEmpty_iff] at hmatches
  obtain ⟨family, hfam, hall⟩ := Option.any_eq_true _ _ |>.mp (hmatches.resolve_left hne)
  exact ⟨family, hfam, all_eq_true.mp hall⟩

/-- The row of a completed generation retains what it was given. -/
theorem RetainsState.of_guard (hguard : generation.protocolStateGuard catalog = true)
    (hne : generation.opaqueReasoningState ≠ [])
    (hformat : ∃ family, generation.providerFamily = some family ∧
      ∀ state ∈ generation.opaqueReasoningState, matchesFamily family state = true)
    (hlims : validateOpaqueReasoningStates X.sizes generation.opaqueReasoningState = .ok ()) :
    RetainsState X generation := by
  rw [GenerationRecord.protocolStateGuard, and_eq_true, or_eq_true, List.isEmpty_iff]
    at hguard
  have hst := hguard.2.resolve_left hne
  simp only [and_eq_true, beq_iff_eq] at hst
  exact ⟨hst.1.1.1, hst.1.1.2, hst.1.2, hformat, hlims⟩

theorem finalizeGenerationWithProtocolState_retentive (hr : Retentive X store)
    (h : finalizeGenerationWithProtocolState X uuid catalog assistant usage opaqueReasoningState
      errorCode keepAssistant now store = .ok store') : Retentive X store' := by
  obtain ⟨_, _, h⟩ := rest₂ h
  obtain ⟨generationId, _, h⟩ := bind_ok.mp h
  obtain ⟨_, _, _, h⟩ := rest₃ h
  obtain ⟨_, _, _, h⟩ := rest₃ h
  obtain ⟨route, hload, _, _, states, hstates, h⟩ := steps₃ h
  obtain ⟨persisted, hpers, ⟨_, s₁⟩, hupdate, h⟩ := steps₂ h
  obtain ⟨_, rfl, _⟩ := touchConversation_ok (execute_ok.mp h)
  have hupdate := execute_ok.mp hupdate
  have hper := persistTerminalAssistant_persists hr hpers
  obtain ⟨hsame, hlegal⟩ := serializeOpaqueReasoningStateForFamily_ok hstates
  -- the row that is updated has the family of the row that was loaded
  have hfam : ∀ row ∈ persisted.generations.rows, row.id = generationId →
      row.providerFamily = route.providerFamily := by
    intro row hrow hid
    obtain ⟨row₀, hrow₀, hsameId, hsameFam⟩ := hper.families row hrow
    obtain ⟨loaded, hfind, hrt⟩ := bind_ok.mp hload
    rw [okOr_ok, Option.filter_eq_some_iff, find?_eq_some] at hfind
    cases pure_inj hrt
    have heq : row₀ = loaded :=
      eq_of_key hrow₀ hfind.1.1 (hsameId.symm.trans (hid.trans hfind.1.2.symm))
    rw [hsameFam, heq]
  refine (hper.retentive.updateGenerations hupdate (fun _ => by rfl) (fun _ => by rfl) ?_).of_eq
    rfl rfl
  intro row hrow hp hne
  have hguard := updateGenerations_guard hupdate hrow hp
  simp only [and_eq_true, beq_iff_eq] at hp
  have hne' : opaqueReasoningState ≠ [] := fun hnil => hne (hsame.trans hnil)
  obtain ⟨⟨family, hrt, hformat⟩, hlims⟩ := hlegal hne'
  subst hsame
  exact .of_guard hguard hne ⟨family, (hfam row hrow hp.1).trans hrt, hformat⟩ hlims

theorem failGenerationAfterFinalizeError_retentive (hr : Retentive X store)
    (h : failGenerationAfterFinalizeError X uuid catalog assistant keepAssistant now store =
      .ok store') : Retentive X store' := by
  obtain ⟨_, h⟩ := guard_ok.mp h
  obtain ⟨generationId, _, route, _, _, _, h⟩ := steps₃ h
  obtain ⟨persisted, hcomp, ⟨_, s₁⟩, hupdate, h⟩ := steps₂ h
  obtain ⟨_, h⟩ := guard_ok.mp h
  obtain ⟨_, rfl, _⟩ := touchConversation_ok (execute_ok.mp h)
  have hper := compensateTerminalAssistant_persists hr hcomp
  refine (hper.retentive.updateGenerations (execute_ok.mp hupdate) (fun _ => by rfl)
    (fun _ => by rfl) ?_).of_eq rfl rfl
  exact fun row _ _ hne => absurd rfl hne

/-! ### Recovery -/

/-- A running generation retains nothing, and so nothing once it is cancelled. -/
theorem applyRecoveryTransaction_retentive (hr : Retentive X store)
    (h : applyRecoveryTransaction X uuid catalog preservePartialGenerations recoveredAt store =
      .ok store') : Retentive X store' := by
  obtain ⟨⟨_, s₁⟩, hupdate, h⟩ := bind_ok.mp h
  have hr₁ : Retentive X s₁ := by
    refine hr.updateGenerations (execute_ok.mp hupdate) (fun _ => by rfl) (fun _ => by rfl) ?_
    intro row hrow hrun hne
    have hcompl := (hr.retained row hrow hne).complete
    rw [beq_iff_eq, hcompl] at hrun
    cases hrun
  cases preservePartialGenerations with
  | true =>
    obtain ⟨⟨_, s₂⟩, hmsgs, rfl⟩ := last_step h
    exact hr₁.updateMessages (execute_ok.mp hmsgs) (fun _ => by rfl) (fun _ => by rfl)
      fun _ => by rfl
  | false =>
    obtain ⟨⟨_, s₂⟩, hbrs, ⟨_, s₃⟩, hparents, ⟨_, s₄⟩, hdelete, h⟩ := steps₃ h
    cases pure_inj h
    obtain ⟨_, hs₂, _⟩ := updateBranches_eq_ok (execute_ok.mp hbrs)
    have hr₂ : Retentive X s₂ := hr₁.of_eq (by rw [hs₂]) (by rw [hs₂])
    have hr₃ := hr₂.updateMessages (execute_ok.mp hparents) (fun _ => by rfl) (fun _ => by rfl)
      fun _ => by rfl
    exact hr₃.deleteMessages (execute_ok.mp hdelete)

/-! ### Runs -/

section

variable (hr : Retentive X store)
include hr

/-- The operations that start and end no generation leave messages and generations alone. -/
theorem saveConversationWithMode_retentive
    (h : saveConversationWithMode X uuid catalog conversation mode branchId now store =
      .ok (store', branch, state)) : Retentive X store' := by
  obtain ⟨s₁, h₁, s₂, h₂, s₃, h₃, h⟩ := steps₃ h
  obtain ⟨_, rfl, _⟩ := insertConversationRow_ok (execute_ok.mp h₁)
  obtain ⟨_, _, rfl, _⟩ := insertBranchRow_ok (execute_ok.mp h₂)
  obtain ⟨_, rfl, _⟩ := insertStateRow_ok (execute_ok.mp h₃)
  cases pure_inj h
  exact hr.of_eq rfl rfl

theorem createConversationBranch_retentive
    (h : createConversationBranch X uuid conversationId fromMessageId title branchId createdAt
      updatedAt store = .ok (store', branch)) : Retentive X store' := by
  obtain ⟨_, _, s₁, h₁, h⟩ := steps₂ h
  obtain ⟨_, _, rfl, _⟩ := insertBranchRow_ok (execute_ok.mp h₁)
  cases pure_inj h
  exact hr.of_eq rfl rfl

theorem selectConversationBranch_retentive
    (h : selectConversationBranch X uuid conversationId branchId now store =
      .ok (store', state)) : Retentive X store' := by
  obtain ⟨⟨changed, s₁⟩, h₁, h⟩ := bind_ok.mp h
  obtain ⟨_, _, h⟩ := rest₂ h
  obtain ⟨_, rfl, _⟩ := updateStates_ok (execute_ok.mp h₁)
  cases pure_inj h
  exact hr.of_eq rfl rfl

theorem removeMessageFromBranch_retentive
    (h : removeMessageFromBranch X uuid conversationId branchId expectedHead targetMessageId now
      store = .ok (store', branch)) : Retentive X store' := by
  obtain ⟨_, _, hmsgs, hgens, _, _⟩ := removeMessageFromBranch_ok h
  exact hr.of_eq hmsgs hgens

theorem checkpointPendingAssistant_retentive
    (h : checkpointPendingAssistant X uuid message store = .ok store') : Retentive X store' := by
  obtain ⟨_, _, h⟩ := rest₂ h
  obtain ⟨⟨_, s₁⟩, hupdate, _, h⟩ := step_guard h
  cases pure_inj h
  exact hr.updateMessages (execute_ok.mp hupdate) (fun _ => by rfl) (fun _ => by rfl)
    fun _ => by rfl

/-- **Step lemma.** -/
theorem Retentive.run {operation : Operation} (hs : Sound X store)
    (h : operation.run X uuid store = .ok store') : Retentive X store' := by
  cases operation with
  | saveConversation =>
    obtain ⟨⟨_, _, _⟩, hsaved, rfl⟩ := last_step h
    exact saveConversationWithMode_retentive hr hsaved
  | saveConversationWithMode =>
    obtain ⟨_, h⟩ := exists_of_map_fst h
    exact saveConversationWithMode_retentive hr h
  | createConversationBranch =>
    obtain ⟨_, h⟩ := exists_of_map_fst h
    exact createConversationBranch_retentive hr h
  | selectConversationBranch =>
    obtain ⟨_, h⟩ := exists_of_map_fst h
    exact selectConversationBranch_retentive hr h
  | appendGeneration => exact appendGeneration_retentive hr h
  | appendMessageGenerationAction =>
    exact appendMessageGenerationAction_retentive hr hs.consistent hs.enforced h
  | removeMessageFromBranch =>
    obtain ⟨_, h⟩ := exists_of_map_fst h
    exact removeMessageFromBranch_retentive hr h
  | checkpointPendingAssistant => exact checkpointPendingAssistant_retentive hr h
  | finalizeGenerationWithProtocolState => exact finalizeGenerationWithProtocolState_retentive hr h
  | failGenerationAfterFinalizeError => exact failGenerationAfterFinalizeError_retentive hr h
  | recover => exact applyRecoveryTransaction_retentive hr h

end

/-- **Run lemma.** -/
theorem retentive_of_reachable (h : Reachable (Conversations.step X) Store.empty store) :
    Retentive X store := by
  have hboth := h.invariant (I := fun s => Sound X s ∧ Retentive X s) ?_
    ⟨Sound.empty X, Retentive.empty X⟩
  · exact hboth.2
  · rintro s operation s' ⟨hsound, hretentive⟩ hstep
    refine ⟨(hsound.step hstep).1, ?_⟩
    rcases hstep with rfl | ⟨uuid, hrun⟩
    · exact hretentive
    · exact hretentive.run hsound hrun

end LorePia.Conversations
