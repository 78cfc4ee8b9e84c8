import LorePia.Conversations.Effects

namespace LorePia.Conversations

open Lib List ConversationBranch GenerationRecord Conversations.Message Table
open DiscoveryStore (SqliteError SqliteJson)

/-!
# The conversation store — constraints as facts

`Constrained` spells out what `Enforced` checks, over the rows.  The other modules read single
constraints off `Enforced`; here a statement is shown to succeed, so all of them have to be
established, and each lemma says which of them an update can break.
-/

variable {conversationId id : String}

/-- The constraints of the tables, over the rows. -/
structure Constrained (J : SqliteJson) (store : Store) : Prop where
  notOwnParent : ∀ row ∈ store.messages.rows, row.parentId ≠ some row.id
  status : ∀ row ∈ store.messages.rows, row.role = .assistant ∨ row.status = .complete
  generated : ∀ row ∈ store.messages.rows, row.role = .assistant ↔ row.generationId.isSome = true
  forkNonempty : ∀ branch ∈ store.branches.rows, branch.forkMessageId ≠ some ""
  generationChecks : ∀ generation ∈ store.generations.rows, generation.checks J = true
  generationIds : (store.messages.rows.filterMap Message.generationId).Nodup
  assistantIds : (store.generations.rows.filterMap GenerationRecord.assistantMessageId).Nodup
  messageConversation : ∀ row ∈ store.messages.rows,
    ∃ conversation ∈ store.conversations.rows, conversation.id = row.conversationId
  parent : ∀ row ∈ store.messages.rows, ∀ id, row.parentId = some id →
    ∃ parent ∈ store.messages.rows, parent.id = id ∧ parent.conversationId = row.conversationId
  branchConversation : ∀ branch ∈ store.branches.rows,
    ∃ conversation ∈ store.conversations.rows, conversation.id = branch.conversationId
  fork : ∀ branch ∈ store.branches.rows, ∀ id, branch.forkMessageId = some id →
    ∃ fork ∈ store.messages.rows, fork.id = id ∧ fork.conversationId = branch.conversationId
  head : ∀ branch ∈ store.branches.rows, ∀ id, branch.headMessageId = some id →
    ∃ head ∈ store.messages.rows, head.id = id ∧ head.conversationId = branch.conversationId
  stateConversation : ∀ state ∈ store.states.rows,
    ∃ conversation ∈ store.conversations.rows, conversation.id = state.conversationId
  stateBranch : ∀ state ∈ store.states.rows, ∃ branch ∈ store.branches.rows,
    branch.id = state.activeBranchId ∧ branch.conversationId = state.conversationId
  generationConversation : ∀ generation ∈ store.generations.rows,
    ∃ conversation ∈ store.conversations.rows, conversation.id = generation.conversationId
  generationBranch : ∀ generation ∈ store.generations.rows, ∃ branch ∈ store.branches.rows,
    branch.id = generation.branchId ∧ branch.conversationId = generation.conversationId
  user : ∀ generation ∈ store.generations.rows,
    ∃ user ∈ store.messages.rows, user.id = generation.userMessageId
  assistant : ∀ generation ∈ store.generations.rows, ∀ id,
    generation.assistantMessageId = some id → ∃ assistant ∈ store.messages.rows, assistant.id = id

section Lookups

variable {store : Store}

theorem hasConversation_eq_true :
    store.hasConversation id = true ↔
      ∃ conversation ∈ store.conversations.rows, conversation.id = id := by
  rw [Store.hasConversation, Option.isSome_iff_exists]
  simp only [find?_eq_some]

theorem isSome_messageIn :
    (store.messageIn conversationId id).isSome = true ↔
      ∃ row ∈ store.messages.rows, row.id = id ∧ row.conversationId = conversationId := by
  rw [Option.isSome_iff_exists]
  simp only [messageIn_eq_some]

theorem hasBranch_eq_true :
    store.hasBranch conversationId id = true ↔ ∃ branch ∈ store.branches.rows, branch.id = id ∧
        branch.conversationId = conversationId := by
  rw [Store.hasBranch, Option.any_eq_true]
  simp only [Table.find?_eq_some, beq_iff_eq, and_assoc]

theorem isSome_find?_messages :
    (store.messages.find? id).isSome = true ↔ ∃ row ∈ store.messages.rows, row.id = id := by
  rw [Option.isSome_iff_exists]
  simp only [find?_eq_some]

theorem option_all_eq_true :
    o.all p = true ↔ ∀ id, o = some id → p id = true := by
  cases o <;> simp

end Lookups

theorem message_checks_eq_true {row : Message} :
    row.checks = true ↔ row.parentId ≠ some row.id ∧
      (row.role = .assistant ∨ row.status = .complete) ∧
      (row.role = .assistant ↔ row.generationId.isSome = true) := by
  rw [Message.checks, Bool.and_eq_true, Bool.and_eq_true, bne_iff_ne, Bool.or_eq_true, beq_iff_eq,
    beq_iff_eq, beq_iff_eq, and_assoc, Bool.eq_iff_iff, beq_iff_eq]

theorem checks_eq_true {store : Store} : store.checks J = true ↔
    (∀ row ∈ store.messages.rows, row.checks = true) ∧
      (∀ branch ∈ store.branches.rows, branch.checks = true) ∧
      ∀ generation ∈ store.generations.rows, generation.checks J = true := by
  rw [Store.checks, Bool.and_eq_true, Bool.and_eq_true, all_eq_true, all_eq_true,
    all_eq_true, and_assoc]

theorem uniqueKeys_eq_true {store : Store} : store.uniqueKeys = true ↔
    (store.messages.rows.filterMap generationId).Nodup ∧
      (store.generations.rows.filterMap assistantMessageId).Nodup := by
  rw [Store.uniqueKeys, Bool.and_eq_true, decide_eq_true_eq, decide_eq_true_eq]

/-- **The constraints.** What `Enforced` checks is what `Constrained` says. -/
theorem Constrained.enforced {store : Store} (h : Constrained J store) :
    Enforced J store := by
  refine ⟨checks_eq_true.mpr ⟨fun row hrow => ?_, fun branch hbr => ?_, h.generationChecks⟩,
    uniqueKeys_eq_true.mpr ⟨h.generationIds, h.assistantIds⟩, ?_⟩
  · exact message_checks_eq_true.mpr
      ⟨h.notOwnParent row hrow, h.status row hrow, h.generated row hrow⟩
  · rw [ConversationBranch.checks, bne_iff_ne]
    exact h.forkNonempty branch hbr
  · simp only [Store.foreignKeys, Bool.and_eq_true, all_eq_true, hasConversation_eq_true,
      isSome_messageIn, hasBranch_eq_true, isSome_find?_messages, option_all_eq_true]
    exact ⟨⟨⟨fun row hrow => ⟨h.messageConversation row hrow, h.parent row hrow⟩,
      fun branch hbr => ⟨⟨h.branchConversation branch hbr, h.fork branch hbr⟩, h.head branch hbr⟩⟩,
      fun state hst => ⟨h.stateConversation state hst, h.stateBranch state hst⟩⟩,
      fun generation hgen => ⟨⟨⟨h.generationConversation generation hgen,
        h.generationBranch generation hgen⟩, h.user generation hgen⟩,
        h.assistant generation hgen⟩⟩

theorem Enforced.constrained {store : Store} (h : Enforced J store) : Constrained J store := by
  obtain ⟨hmsgs, hbrs, hgens⟩ := checks_eq_true.mp h.checks
  obtain ⟨hgenIds, hassts⟩ := uniqueKeys_eq_true.mp h.uniqueKeys
  have hforeign := h.foreignKeys
  simp only [Store.foreignKeys, Bool.and_eq_true, all_eq_true, hasConversation_eq_true,
    isSome_messageIn, hasBranch_eq_true, isSome_find?_messages, option_all_eq_true] at hforeign
  obtain ⟨⟨⟨hmsg, hbr⟩, hstate⟩, hgen⟩ := hforeign
  have hmsgChecks := fun row hrow => message_checks_eq_true.mp (hmsgs row hrow)
  exact
    { notOwnParent := fun row hrow => (hmsgChecks row hrow).1
      status := fun row hrow => (hmsgChecks row hrow).2.1
      generated := fun row hrow => (hmsgChecks row hrow).2.2
      forkNonempty := fun branch hrow => bne_iff_ne.mp (hbrs branch hrow)
      generationChecks := hgens
      generationIds := hgenIds
      assistantIds := hassts
      messageConversation := fun row hrow => (hmsg row hrow).1
      parent := fun row hrow => (hmsg row hrow).2
      branchConversation := fun branch hrow => (hbr branch hrow).1.1
      fork := fun branch hrow => (hbr branch hrow).1.2
      head := fun branch hrow => (hbr branch hrow).2
      stateConversation := fun state hrow => (hstate state hrow).1
      stateBranch := fun state hrow => (hstate state hrow).2
      generationConversation := fun generation hrow => (hgen generation hrow).1.1.1
      generationBranch := fun generation hrow => (hgen generation hrow).1.1.2
      user := fun generation hrow => (hgen generation hrow).1.2
      assistant := fun generation hrow => (hgen generation hrow).2 }

/-! ### Updates -/

section Updates

variable {J : SqliteJson} {store : Store}

theorem filterMap_map_same {ρ κ : Type} {rows : List ρ} {f : ρ → ρ} {key : ρ → Option κ}
    (h : ∀ row ∈ rows, key (f row) = key row) :
    (rows.map f).filterMap key = rows.filterMap key := by
  rw [filterMap_map]
  exact filterMap_congr h

section

variable (h : Constrained J store)
include h

/-- Messages that keep their place may get another parent and status. -/
theorem Constrained.editMessages {f : Message → Message}
    (hrows : messages.rows = store.messages.rows.map f) (hid : ∀ row, (f row).id = row.id)
    (hconv : ∀ row, (f row).conversationId = row.conversationId)
    (hrole : ∀ row, (f row).role = row.role) (hgen : ∀ row, (f row).generationId = row.generationId)
    (hstat : ∀ row ∈ store.messages.rows, (f row).role = .assistant ∨ (f row).status = .complete)
    (hself : ∀ row ∈ store.messages.rows, (f row).parentId ≠ some row.id)
    (hpar : ∀ row ∈ store.messages.rows, ∀ id, (f row).parentId = some id →
      ∃ parent ∈ store.messages.rows, parent.id = id ∧ parent.conversationId = row.conversationId) :
    Constrained J { store with messages } := by
  have hall : ∀ {P : Message → Prop}, (∀ row ∈ store.messages.rows, P (f row)) →
      ∀ row ∈ messages.rows, P row := by
    intro P hedited
    rw [hrows, forall_mem_map]
    exact hedited
  have hmem : ∀ {row}, row ∈ store.messages.rows → f row ∈ messages.rows :=
    fun hrow => hrows ▸ mem_map_of_mem hrow
  have hkeep : ∀ {id conversationId : String},
      (∃ row ∈ store.messages.rows, row.id = id ∧ row.conversationId = conversationId) →
      ∃ row ∈ messages.rows, row.id = id ∧ row.conversationId = conversationId := by
    rintro id conversationId ⟨row, hrow, hrowId, hrowConv⟩
    exact ⟨f row, hmem hrow, (hid row).trans hrowId, (hconv row).trans hrowConv⟩
  have hkeepId : ∀ {id : String}, (∃ row ∈ store.messages.rows, row.id = id) →
      ∃ row ∈ messages.rows, row.id = id := by
    rintro id ⟨row, hrow, hrowId⟩
    exact ⟨f row, hmem hrow, (hid row).trans hrowId⟩
  refine { h with
    notOwnParent := hall fun row hrow => ?_
    status := hall hstat
    generated := hall fun row hrow => ?_
    generationIds := ?_
    messageConversation := hall fun row hrow => ?_
    parent := hall fun row hrow id hparId => ?_
    fork := fun branch hbr id hfork => hkeep (h.fork branch hbr id hfork)
    head := fun branch hbr id hhead => hkeep (h.head branch hbr id hhead)
    user := fun generation hmem => hkeepId (h.user generation hmem)
    assistant := fun generation hmem id hasst => hkeepId (h.assistant generation hmem id hasst) }
  · rw [hid]
    exact hself row hrow
  · rw [hrole, hgen]
    exact h.generated row hrow
  · show (messages.rows.filterMap generationId).Nodup
    rw [hrows, filterMap_map_same fun row _ => hgen row]
    exact h.generationIds
  · rw [hconv]
    exact h.messageConversation row hrow
  · rw [hconv]
    exact hkeep (hpar row hrow id hparId)

/-- Branches that keep their conversation may get another head and lose their fork. -/
theorem Constrained.editBranches
    (hrows : branches.rows = store.branches.rows.map f) (hid : ∀ row, (f row).id = row.id)
    (hconv : ∀ row, (f row).conversationId = row.conversationId)
    (hfork : ∀ row ∈ store.branches.rows, (f row).forkMessageId = none)
    (hhead : ∀ row ∈ store.branches.rows, ∀ id, (f row).headMessageId = some id →
      ∃ head ∈ store.messages.rows, head.id = id ∧ head.conversationId = row.conversationId) :
    Constrained J { store with branches } := by
  have hall : ∀ {P : ConversationBranch → Prop}, (∀ row ∈ store.branches.rows, P (f row)) →
      ∀ row ∈ branches.rows, P row := by
    intro P hedited
    rw [hrows, forall_mem_map]
    exact hedited
  have hmem : ∀ {row}, row ∈ store.branches.rows → f row ∈ branches.rows :=
    fun hrow => hrows ▸ mem_map_of_mem hrow
  have hkeep : ∀ {id conversationId : String},
      (∃ row ∈ store.branches.rows, row.id = id ∧ row.conversationId = conversationId) →
      ∃ row ∈ branches.rows, row.id = id ∧ row.conversationId = conversationId := by
    rintro id conversationId ⟨row, hrow, hrowId, hrowConv⟩
    exact ⟨f row, hmem hrow, (hid row).trans hrowId, (hconv row).trans hrowConv⟩
  refine { h with
    forkNonempty := hall fun row hrow => ?_
    branchConversation := hall fun row hrow => ?_
    fork := hall fun row hrow id hforkId => ?_
    head := hall fun row hrow id hheadId => ?_
    stateBranch := fun state hst => hkeep (h.stateBranch state hst)
    generationBranch := fun generation hmem => hkeep (h.generationBranch generation hmem) }
  · rw [hfork row hrow]
    simp
  · rw [hconv]
    exact h.branchConversation row hrow
  · rw [hfork row hrow] at hforkId
    cases hforkId
  · rw [hconv]
    exact hhead row hrow id hheadId

/-- Generations may get another status and time, as long as the two agree. -/
theorem Constrained.editGenerations {f : GenerationRecord → GenerationRecord}
    (hrows : generations.rows = store.generations.rows.map f)
    (hchecks : ∀ row ∈ store.generations.rows, (f row).checks J = true)
    (hconv : ∀ row, (f row).conversationId = row.conversationId)
    (hbr : ∀ row, (f row).branchId = row.branchId)
    (huser : ∀ row, (f row).userMessageId = row.userMessageId)
    (hasst : ∀ row, (f row).assistantMessageId = row.assistantMessageId) :
    Constrained J { store with generations } := by
  have hall : ∀ {P : GenerationRecord → Prop}, (∀ row ∈ store.generations.rows, P (f row)) →
      ∀ row ∈ generations.rows, P row := by
    intro P hedited
    rw [hrows, forall_mem_map]
    exact hedited
  refine { h with
    generationChecks := hall hchecks
    assistantIds := ?_
    generationConversation := hall fun row hrow => ?_
    generationBranch := hall fun row hrow => ?_
    user := hall fun row hrow => ?_
    assistant := hall fun row hrow id hid => ?_ }
  · show (generations.rows.filterMap assistantMessageId).Nodup
    rw [hrows, filterMap_map_same fun row _ => hasst row]
    exact h.assistantIds
  · rw [hconv]
    exact h.generationConversation row hrow
  · rw [hbr, hconv]
    exact h.generationBranch row hrow
  · rw [huser]
    exact h.user row hrow
  · rw [hasst] at hid
    exact h.assistant row hrow id hid

/-- Nothing refers to a conversation that is added. -/
theorem Constrained.addConversation
    (hrows : conversations.rows = store.conversations.rows ++ [conversation]) :
    Constrained J { store with conversations } := by
  have hkeep : ∀ {id : String},
      (∃ conversation ∈ store.conversations.rows, conversation.id = id) →
      ∃ conversation ∈ conversations.rows, conversation.id = id := by
    rintro id ⟨conversation, hmem, hid⟩
    exact ⟨conversation, hrows ▸ mem_append_left _ hmem, hid⟩
  exact { h with
    messageConversation := fun row hrow => hkeep (h.messageConversation row hrow)
    branchConversation := fun branch hbr => hkeep (h.branchConversation branch hbr)
    stateConversation := fun state hst => hkeep (h.stateConversation state hst)
    generationConversation := fun generation hgen => hkeep (h.generationConversation generation hgen) }

/-- A root branch may be added to a conversation. -/
theorem Constrained.addRoot
    (hrows : branches.rows = store.branches.rows ++ [.root conversationId id now])
    (hconv : ∃ conversation ∈ store.conversations.rows, conversation.id = conversationId) :
    Constrained J { store with branches } := by
  have hkeep : ∀ {id conversationId : String},
      (∃ branch ∈ store.branches.rows, branch.id = id ∧ branch.conversationId = conversationId) →
      ∃ branch ∈ branches.rows, branch.id = id ∧ branch.conversationId = conversationId := by
    rintro id conversationId ⟨branch, hmem, hbr⟩
    exact ⟨branch, hrows ▸ mem_append_left _ hmem, hbr⟩
  have hall : ∀ {P : ConversationBranch → Prop}, (∀ branch ∈ store.branches.rows, P branch) →
      P (.root conversationId id now) → ∀ branch ∈ branches.rows, P branch := by
    intro P hold hnew
    rw [hrows]
    exact forall_mem_concat.mpr ⟨hold, hnew⟩
  exact { h with
    forkNonempty := hall h.forkNonempty (by simp [root])
    branchConversation := hall h.branchConversation hconv
    fork := hall h.fork (by simp [root])
    head := hall h.head (by simp [root])
    stateBranch := fun state hst => hkeep (h.stateBranch state hst)
    generationBranch := fun generation hgen => hkeep (h.generationBranch generation hgen) }

/-- Messages that nothing but a generation refers to may go. -/
theorem Constrained.deleteMessages
    (hmsgs : messages = store.messages.deleteWhere p)
    (hgens : generations = store.generations.updateWhere q
      (fun row => { row with assistantMessageId := none }) fun _ => rfl)
    (hq : ∀ row, q row = true ↔
      ∃ id, row.assistantMessageId = some id ∧ ∃ reply ∈ store.messages.rows,
        reply.id = id ∧ p reply = true)
    (hpar : ∀ row ∈ store.messages.rows, p row = true → ∀ child ∈ store.messages.rows,
      child.parentId ≠ some row.id)
    (hfork : ∀ row ∈ store.messages.rows, p row = true → ∀ branch ∈ store.branches.rows,
      branch.forkMessageId ≠ some row.id)
    (hhead : ∀ row ∈ store.messages.rows, p row = true → ∀ branch ∈ store.branches.rows,
      branch.headMessageId ≠ some row.id)
    (huser : ∀ row ∈ store.messages.rows, p row = true → ∀ generation ∈ store.generations.rows,
      generation.userMessageId ≠ row.id) :
    Constrained J { store with messages, generations } := by
  have hmem : ∀ {row}, row ∈ messages.rows ↔ row ∈ store.messages.rows ∧ p row = false := by
    intro row
    rw [hmsgs, Table.mem_deleteWhere]
  have hgen : ∀ {P : GenerationRecord → Prop},
      (∀ row ∈ store.generations.rows, q row = true → P { row with assistantMessageId := none }) →
      (∀ row ∈ store.generations.rows, ¬ q row = true → P row) →
      ∀ row ∈ generations.rows, P row := by
    intro P hcleared hkept row' hrow'
    rw [hgens, mem_updateWhere] at hrow'
    obtain ⟨row, hrow, rfl⟩ := hrow'
    split
    · exact hcleared row hrow ‹_›
    · exact hkept row hrow ‹_›
  -- a row that something refers to stays
  have hkeep : ∀ {id : String} {P : Message → Prop},
      (∃ row ∈ store.messages.rows, row.id = id ∧ P row) →
      (∀ row ∈ store.messages.rows, p row = true → row.id ≠ id) →
      ∃ row ∈ messages.rows, row.id = id ∧ P row := by
    rintro id P ⟨row, hrow, hrowId, hP⟩ hstays
    refine ⟨row, hmem.mpr ⟨hrow, ?_⟩, hrowId, hP⟩
    by_contra hp
    rw [Bool.not_eq_false] at hp
    exact hstays row hrow hp hrowId
  have huserStays : ∀ row ∈ store.generations.rows,
      ∃ user ∈ messages.rows, user.id = row.userMessageId := by
    intro row hrow
    obtain ⟨user, huserMem, huserId⟩ := h.user row hrow
    obtain ⟨user', huser', huserId', _⟩ := hkeep (P := fun _ => True)
      ⟨user, huserMem, huserId, trivial⟩
      fun other hoth hp hothId => huser other hoth hp row hrow hothId.symm
    exact ⟨user', huser', huserId'⟩
  refine { h with
    notOwnParent := fun row hrow => h.notOwnParent row (hmem.mp hrow).1
    status := fun row hrow => h.status row (hmem.mp hrow).1
    generated := fun row hrow => h.generated row (hmem.mp hrow).1
    generationChecks := hgen (fun row hrow _ => h.generationChecks row hrow)
      fun row hrow _ => h.generationChecks row hrow
    generationIds := ?_
    assistantIds := ?_
    messageConversation := fun row hrow => h.messageConversation row (hmem.mp hrow).1
    parent := ?_
    fork := ?_
    head := ?_
    generationConversation := hgen (fun row hrow _ => h.generationConversation row hrow)
      fun row hrow _ => h.generationConversation row hrow
    generationBranch := hgen (fun row hrow _ => h.generationBranch row hrow)
      fun row hrow _ => h.generationBranch row hrow
    user := hgen (fun row hrow _ => huserStays row hrow) fun row hrow _ => huserStays row hrow
    assistant := hgen (fun _ _ _ _ hid => nomatch hid) fun row hrow hqrow id hid => ?_ }
  · show (messages.rows.filterMap generationId).Nodup
    have hsub : List.Sublist messages.rows store.messages.rows := by
      rw [hmsgs]
      exact filter_sublist
    exact h.generationIds.sublist (hsub.filterMap _)
  · show (generations.rows.filterMap assistantMessageId).Nodup
    rw [hgens]
    show ((store.generations.rows.map _).filterMap _).Nodup
    rw [filterMap_map]
    refine List.Nodup.sublist ?_ h.assistantIds
    generalize store.generations.rows = rows
    induction rows with
    | nil => exact List.Sublist.refl _
    | cons row rows ih =>
      rw [filterMap_cons, filterMap_cons, Function.comp_apply]
      by_cases hqrow : q row = true
      · rw [if_pos hqrow]
        cases row.assistantMessageId with
        | none => exact ih
        | some id => exact ih.cons id
      · rw [if_neg hqrow]
        cases row.assistantMessageId with
        | none => exact ih
        | some id => exact ih.cons_cons id
  · intro row hrow id hid
    have hrow := (hmem.mp hrow).1
    refine hkeep (h.parent row hrow id hid) fun parent hparMem hp hsame => ?_
    exact hpar parent hparMem hp row hrow (hsame ▸ hid)
  · intro branch hbr id hid
    refine hkeep (h.fork branch hbr id hid) fun row hrow hp hsame => ?_
    exact hfork row hrow hp branch hbr (hsame ▸ hid)
  · intro branch hbr id hid
    refine hkeep (h.head branch hbr id hid) fun row hrow hp hsame => ?_
    exact hhead row hrow hp branch hbr (hsame ▸ hid)
  · obtain ⟨reply, hreply, hreplyId⟩ := h.assistant row hrow id hid
    refine ⟨reply, hmem.mpr ⟨hreply, ?_⟩, hreplyId⟩
    by_contra hp
    rw [Bool.not_eq_false] at hp
    exact hqrow ((hq row).mpr ⟨id, hid, reply, hreply, hreplyId, hp⟩)

end

end Updates

end LorePia.Conversations
