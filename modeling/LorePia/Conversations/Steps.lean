import LorePia.Conversations.Invariant

namespace LorePia.Conversations

open Lib List Bool Option Table
open DiscoveryStore (SqliteError SqliteJson)

/-!
# The conversation store — one operation

From a consistent store, every operation that succeeds is a `Starts` or a `Settles`
(`Effect`), and leaves a store that satisfies its constraints.  There is one lemma for each
operation; the shapes they share come first.  This module has the operations on branches and
the two that start a generation.
-/

variable {expectedHead : Option String} {branch : ConversationBranch} {branchId : String}
  {generation : GenerationRecord} {catalog : Catalog} {user assistant : Message}
  {targetMessageId : String} {action : MessageGenerationAction} {row : Message}
  {conversation : Conversation} {expectedSourceHead : Option String} {sourceBranchId : String}

/-- An operation's effect on a consistent store. -/
inductive Effect (store store' : Store) : Prop
  | settles (ended : String → Prop) (h : Settles ended store store')
  | starts (user assistant : Message) (generation : GenerationRecord)
      (h : Starts user assistant generation store store')

variable {X : Externals} {uuid : String} {store store' : Store}

theorem execute_ok {α : Type} {statement : Except SqliteError α} {a : α} :
    execute X uuid statement = .ok a ↔ statement = .ok a := mapError_ok

/-! ### Shapes of settling -/

section

variable (hmsgs : store'.messages = store.messages)
include hmsgs

/-- Only branches change: heads and forks stay, or become settled. -/
theorem Settles.of_branches (hgens : store'.generations = store.generations)
    (hbrs : ∀ branch' ∈ store'.branches.rows,
      ((∃ branch ∈ store.branches.rows, branch.id = branch'.id ∧
        branch.headMessageId = branch'.headMessageId) ∨ store.Settled branch'.headMessageId) ∧
      ((∃ branch ∈ store.branches.rows, branch.forkMessageId = branch'.forkMessageId) ∨
        store.Settled branch'.forkMessageId))
    (hpend : ∀ branch ∈ store.branches.rows, ∀ row ∈ store.messages.rows,
      row.status = .pending → branch.headMessageId = some row.id →
      branch ∈ store'.branches.rows) :
    Settles (fun _ => False) store store' where
  kept := by
    rw [hmsgs]
    exact fun row hrow _ => hrow
  edited := by
    rw [hmsgs]
    exact fun row hrow => ⟨row, hrow, .refl row, fun _ => rfl⟩
  unended := by
    rw [hmsgs]
    exact fun row hrow hpend _ => ⟨row, hrow, hpend, .refl row⟩
  pending := fun _ _ _ _ _ => id
  running := by simp [hgens]
  heads := fun branch' hbr' => (hbrs branch' hbr').1
  pendingHeads := fun branch hbr row hrow hstat hhead _ =>
    ⟨branch, hpend branch hbr row hrow hstat hhead, rfl, rfl⟩
  forks := fun branch' hbr' => (hbrs branch' hbr').2

/-- Messages, branches and generations are as they were. -/
theorem Settles.refl (hbrs : store'.branches = store.branches)
    (hgens : store'.generations = store.generations) :
    Settles (fun _ => False) store store' := by
  refine .of_branches hmsgs hgens ?_ ?_
  · intro branch hbr
    rw [hbrs] at hbr
    exact ⟨.inl ⟨branch, hbr, rfl, rfl⟩, .inl ⟨branch, hbr, rfl⟩⟩
  · intro branch hbr _ _ _ _
    exact hbrs ▸ hbr

/-- A branch is added, with settled head and fork. -/
theorem Settles.of_insertBranch (hbrs : store'.branches.rows = store.branches.rows ++ [branch])
    (hgens : store'.generations = store.generations)
    (hhead : store.Settled branch.headMessageId) (hfork : store.Settled branch.forkMessageId) :
    Settles (fun _ => False) store store' := by
  refine .of_branches hmsgs hgens ?_ ?_
  · intro branch' hbr'
    rw [hbrs, mem_append, mem_singleton] at hbr'
    rcases hbr' with hbr' | rfl
    · exact ⟨.inl ⟨branch', hbr', rfl, rfl⟩, .inl ⟨branch', hbr', rfl⟩⟩
    · exact ⟨.inr hhead, .inr hfork⟩
  · intro old hold _ _ _ _
    rw [hbrs]
    exact mem_append_left _ hold

/-- A branch moves from one settled head to another. -/
theorem Settles.of_moveHead
    (hbrs : store'.branches.rows = store.branches.rows.map fun row =>
      if row.id == branchId && row.conversationId == conversationId &&
        row.headMessageId == oldHead then
        { row with headMessageId := newHead, updatedAt := now } else row)
    (hgens : store'.generations = store.generations)
    (hnew : store.Settled newHead) (hold : store.Settled oldHead) :
    Settles (fun _ => False) store store' := by
  refine .of_branches hmsgs hgens ?_ ?_
  · rw [hbrs]
    refine forall_mem_map.mpr fun branch hbr => ?_
    split
    · exact ⟨.inr hnew, .inl ⟨branch, hbr, rfl⟩⟩
    · exact ⟨.inl ⟨branch, hbr, rfl, rfl⟩, .inl ⟨branch, hbr, rfl⟩⟩
  · intro branch hbr row hrow hstat hhead
    rw [hbrs]
    refine mem_map.mpr ⟨branch, hbr, if_neg ?_⟩
    simp only [and_eq_true, beq_iff_eq]
    rintro ⟨_, hexp⟩
    exact hold.ne hrow hstat (hexp.symm.trans hhead)

end

/-! ### Conversations and branches -/

theorem saveConversationWithMode_effect {mode : ConversationMode}
    (h : saveConversationWithMode X uuid catalog conversation mode branchId now store =
      .ok (store', branch, state)) : Effect store store' ∧ Enforced X.sqlite store' := by
  obtain ⟨s₁, h₁, s₂, h₂, s₃, h₃, h⟩ := steps₃ h
  obtain ⟨_, rfl, _⟩ := insertConversationRow_ok (execute_ok.mp h₁)
  obtain ⟨branches, hbrs, rfl, _⟩ := insertBranchRow_ok (execute_ok.mp h₂)
  obtain ⟨_, rfl, henf⟩ := insertStateRow_ok (execute_ok.mp h₃)
  cases pure_inj h
  exact ⟨.settles _ (.of_insertBranch rfl hbrs rfl (store.settled_none) (store.settled_none)), henf⟩

theorem saveConversation_effect
    (h : saveConversation X uuid catalog conversation branchId now store = .ok store') :
    Effect store store' ∧ Enforced X.sqlite store' := by
  obtain ⟨⟨_, _, _⟩, hsaved, rfl⟩ := last_step h
  exact saveConversationWithMode_effect hsaved

theorem createConversationBranch_effect
    {fromMessageId title : Option String} {createdAt updatedAt : String}
    (h : createConversationBranch X uuid conversationId fromMessageId title branchId createdAt
      updatedAt store = .ok (store', branch)) :
    Effect store store' ∧ Enforced X.sqlite store' := by
  obtain ⟨_, hsrc, s₁, h₁, h⟩ := steps₂ h
  obtain ⟨branches, hbrs, rfl, henf⟩ := insertBranchRow_ok (execute_ok.mp h₁)
  cases pure_inj h
  have hsett : store.Settled fromMessageId := by
    intro id hid
    subst hid
    rw [requireBranchSource, require_ok, Option.any_eq_true] at hsrc
    obtain ⟨row, hrow, hstat⟩ := hsrc
    obtain ⟨hmem, hid, _⟩ := messageIn_eq_some.mp hrow
    exact ⟨row, hmem, hid, by simpa using hstat⟩
  exact ⟨.settles _ (.of_insertBranch rfl hbrs rfl hsett hsett), henf⟩

theorem selectConversationBranch_effect
    (h : selectConversationBranch X uuid conversationId branchId now store =
      .ok (store', state)) : Effect store store' ∧ Enforced X.sqlite store' := by
  obtain ⟨⟨changed, s₁⟩, h₁, h⟩ := bind_ok.mp h
  obtain ⟨_, _, h⟩ := rest₂ h
  obtain ⟨_, rfl, henf⟩ := updateStates_ok (execute_ok.mp h₁)
  cases pure_inj h
  exact ⟨.settles _ (.refl rfl rfl rfl), henf⟩

/-! ### Starting a generation -/

theorem u64ToI64_ok {value value' : Option Nat} (h : u64ToI64 uuid value = .ok value') :
    value' = value := by
  obtain ⟨_, h⟩ := guard_ok.mp h
  exact (pure_inj h).symm

theorem serializeOpaqueReasoningState_ok
    (h : serializeOpaqueReasoningState X uuid states = .ok states') : states' = states := by
  unfold serializeOpaqueReasoningState at h
  split at h
  case isTrue hempty =>
    rw [hempty]
    exact (Except.ok.inj h).symm
  case isFalse =>
    obtain ⟨_, _, _, h⟩ := rest₃ h
    exact (pure_inj h).symm

theorem insertMessage_ok {message : Message} (h : insertMessage X uuid message store = .ok store') :
    ∃ messages, messages.rows = store.messages.rows ++ [message] ∧
      store' = { store with messages } ∧ Enforced X.sqlite store' :=
  insertMessageRow_ok (execute_ok.mp h)

/-- The row of a generation is the record. -/
theorem insertGeneration_ok (h : insertGeneration X uuid catalog generation store = .ok store') :
    ∃ generations, generations.rows = store.generations.rows ++ [generation] ∧
      store' = { store with generations } ∧ Enforced X.sqlite store' := by
  obtain ⟨_, hstates, _, hinput, _, hout, h⟩ := steps₃ h
  obtain ⟨_, hread, _, hwrite, h⟩ := steps₂ h
  obtain ⟨_, hreas, _, htool, h⟩ := steps₂ h
  have hrow := insertGenerationRow_ok (execute_ok.mp h)
  rw [serializeOpaqueReasoningState_ok hstates, u64ToI64_ok hinput, u64ToI64_ok hout,
    u64ToI64_ok hread, u64ToI64_ok hwrite, u64ToI64_ok hreas,
    u64ToI64_ok htool] at hrow
  exact hrow

theorem moveBranchHead_ok {changed : Nat}
    (h : moveBranchHead X uuid branchId conversationId newHead expectedHead now store =
      .ok (changed, store')) :
    (∃ branches : Table String ConversationBranch ConversationBranch.id,
      store' = { store with branches } ∧
      branches.rows = store.branches.rows.map fun row =>
        if row.id == branchId && row.conversationId == conversationId &&
          row.headMessageId == expectedHead then
          { row with headMessageId := newHead, updatedAt := now } else row) ∧
      changed = (store.branches.rows.countP fun row => row.id == branchId &&
        row.conversationId == conversationId && row.headMessageId == expectedHead) ∧
      Enforced X.sqlite store' := by
  obtain ⟨rfl, rfl, henf⟩ := updateBranches_eq_ok (execute_ok.mp h)
  exact ⟨⟨_, rfl, rfl⟩, rfl, henf⟩

/-- What a generation append checks of the three rows before it touches the store. -/
structure AppendValid (branchId : String) (expectedHead : Option String) (user assistant : Message)
    (generation : GenerationRecord) : Prop where
  userRole : user.role = .user
  userComplete : user.status = .complete
  userParent : user.parentId = expectedHead
  assistantRole : assistant.role = .assistant
  assistantPending : assistant.status = .pending
  assistantParent : assistant.parentId = some user.id
  running : generation.status = .running
  owns : Owns generation assistant
  conversation : assistant.conversationId = user.conversationId
  branch : generation.branchId = branchId

theorem validateGenerationAppend_ok
    (h : validateGenerationAppend uuid branchId expectedHead user assistant generation = .ok u) :
    AppendValid branchId expectedHead user assistant generation := by
  obtain ⟨⟨huserRole, hcompl, _, huserPar⟩, ⟨hrole, hpend, hpar, hconv⟩, h⟩ := guards₂ h
  obtain ⟨⟨hrun, _, _⟩, generationId, hid, h⟩ := guard_step h
  rw [okOr_ok] at hid
  rw [require_ok] at h
  obtain ⟨rfl, hgenConv, hbr, huser, hasst⟩ := h
  exact {
    userRole := huserRole
    userComplete := hcompl
    userParent := huserPar
    assistantRole := hrole
    assistantPending := hpend
    assistantParent := hpar
    running := hrun
    owns := ⟨hid, hasst, huser ▸ hpar, hconv.trans hgenConv.symm⟩
    conversation := hconv
    branch := hbr }

theorem appendGeneration_effect
    (h : appendGeneration X uuid catalog branchId expectedHead user assistant generation now store =
      .ok store') :
    Starts user assistant generation store store' ∧ Enforced X.sqlite store' := by
  obtain ⟨_, hval, h⟩ := bind_ok.mp h
  have hval := validateGenerationAppend_ok hval
  obtain ⟨stored, hstored, ⟨hconv, hhead⟩, h⟩ := step_guard h
  obtain ⟨_, hnotPend, s₁, h₁, s₂, h₂, h⟩ := steps₃ h
  obtain ⟨s₃, h₃, ⟨changed, s₄⟩, h₄, h⟩ := steps₂ h
  obtain ⟨_, h⟩ := guard_ok.mp h
  rw [okOr_ok, find?_eq_some] at hstored
  obtain ⟨hstored, hstoredId⟩ := hstored
  rw [forSome_ok] at hnotPend
  obtain ⟨messages₁, hmsgs₁, rfl, _⟩ := insertMessage_ok h₁
  obtain ⟨messages₂, hmsgs₂, rfl, _⟩ := insertMessage_ok h₂
  obtain ⟨generations, hgens, rfl, _⟩ := insertGeneration_ok h₃
  obtain ⟨⟨branches, rfl, hbrs⟩, _, _⟩ := moveBranchHead_ok h₄
  obtain ⟨_, rfl, henf⟩ := touchConversation_ok (execute_ok.mp h)
  have hsett : store.Settled user.parentId := by
    intro id hid
    rw [hval.userParent] at hid
    obtain ⟨row, hrow, hstat⟩ := bind_ok.mp (hnotPend id hid)
    rw [okOr_ok] at hrow
    rw [require_ok] at hstat
    obtain ⟨hmem, hrowId, _⟩ := messageIn_eq_some.mp hrow
    exact ⟨row, hmem, hrowId, hstat⟩
  -- the one branch whose head moves is the stored one
  refine ⟨?_, henf⟩
  refine {
    messages := by
      show messages₂.rows = _
      rw [hmsgs₂, hmsgs₁, append_assoc]
      rfl
    generations := hgens
    userRole := hval.userRole
    userComplete := hval.userComplete
    userParent := hsett
    assistantRole := hval.assistantRole
    assistantPending := hval.assistantPending
    assistantParent := hval.assistantParent
    running := hval.running
    owns := hval.owns
    branches := ?_
    pendingHeads := ?_
    head := ?_ }
  · rw [hbrs]
    refine forall_mem_map.mpr fun row hrow => ?_
    split
    case isTrue hcond =>
      simp only [and_eq_true, beq_iff_eq] at hcond
      exact .inr ⟨hcond.1.1.trans hval.branch.symm, rfl, .inl ⟨row, hrow, rfl⟩⟩
    case isFalse => exact .inl hrow
  · intro branch hbr row hrow hpend hbrHead
    show branch ∈ branches.rows
    rw [hbrs, List.mem_map]
    refine ⟨branch, hbr, if_neg ?_⟩
    simp only [and_eq_true, beq_iff_eq]
    rintro ⟨_, hexp⟩
    refine hsett.ne hrow hpend ?_
    rw [hval.userParent, ← hexp, hbrHead]
  · refine ⟨{ stored with headMessageId := some assistant.id, updatedAt := now }, ?_,
      hstoredId.trans hval.branch.symm, rfl⟩
    show _ ∈ branches.rows
    rw [hbrs, List.mem_map]
    refine ⟨stored, hstored, if_pos ?_⟩
    simp only [and_eq_true, beq_iff_eq]
    exact ⟨⟨hstoredId, hconv⟩, hhead⟩

/-! ### Message actions -/

/-- The parent of a stored message is settled. -/
theorem Consistent.settled_parent (hc : Consistent store) (he : Enforced X.sqlite store) (hrow : row ∈ store.messages.rows) : store.Settled row.parentId := by
  intro id hid
  obtain ⟨parent, hpar, rfl, _⟩ := he.parent hrow hid
  refine ⟨parent, hpar, rfl, fun hpend => ?_⟩
  exact hc.childless parent hpar hpend row hrow hid

theorem branchHead_eq_some :
    store.branchHead branchId = some row ↔ ∃ branch ∈ store.branches.rows,
      branch.id = branchId ∧ branch.headMessageId = some row.id ∧
        row ∈ store.messages.rows ∧ row.conversationId = branch.conversationId := by
  rw [Store.branchHead, bind_eq_some_iff]
  constructor
  · rintro ⟨branch, hfind, hhead⟩
    obtain ⟨hbr, hid⟩ := find?_eq_some.mp hfind
    obtain ⟨id, hheadId, hrow⟩ := bind_eq_some_iff.mp hhead
    obtain ⟨hmem, rfl, hconv⟩ := messageIn_eq_some.mp hrow
    exact ⟨branch, hbr, hid, hheadId, hmem, hconv⟩
  · rintro ⟨branch, hbr, hid, hhead, hmem, hconv⟩
    refine ⟨branch, find?_eq_some.mpr ⟨hbr, hid⟩, ?_⟩
    exact bind_eq_some_iff.mpr ⟨row.id, hhead, messageIn_eq_some.mpr ⟨hmem, rfl, hconv⟩⟩

/-- A lineage runs through stored messages. -/
theorem mem_of_mem_branchLineage
    (h : row ∈ branchLineage branchId store) : row ∈ store.messages.rows := by
  refine forall_mem_ancestry (fun a ha => ?_) (fun a b _ hb => ?_) row h
  · obtain ⟨_, _, _, _, hmem, _⟩ := branchHead_eq_some.mp ha
    exact hmem
  · exact (parentOf_eq_some.mp hb).2.1

/-- The snapshot of an action: the branch has the expected head, which is settled. -/
theorem validateBranchActionSnapshot_ok
    (h : validateBranchActionSnapshot uuid conversationId branchId expectedHead store = .ok u) :
    ∃ branch ∈ store.branches.rows, branch.id = branchId ∧
      branch.conversationId = conversationId ∧ branch.headMessageId = expectedHead ∧
      store.Settled expectedHead := by
  obtain ⟨branch, hbr, state, _, h⟩ := steps₂ h
  obtain ⟨hconv, ⟨hhead, _⟩, h⟩ := guards₂ h
  rw [okOr_ok, find?_eq_some] at hbr
  rw [forSome_ok] at h
  refine ⟨branch, hbr.1, hbr.2, hconv, hhead, ?_⟩
  intro id hid
  obtain ⟨row, hrow, hstat⟩ := bind_ok.mp (h id (hhead.trans hid))
  rw [okOr_ok] at hrow
  rw [require_ok] at hstat
  obtain ⟨hmem, hrowId, _⟩ := messageIn_eq_some.mp hrow
  exact ⟨row, hmem, hrowId, hstat⟩

theorem loadBranchActionTarget_ok {target : Message}
    (h : loadBranchActionTarget uuid conversationId branchId expectedHead targetMessageId store =
      .ok target) :
    validateBranchActionSnapshot uuid conversationId branchId expectedHead store = .ok () ∧
      target ∈ branchLineage branchId store ∧ target.id = targetMessageId := by
  obtain ⟨_, hsnap, h⟩ := bind_ok.mp h
  rw [okOr_ok] at h
  exact ⟨hsnap, mem_of_find?_eq_some h, by simpa using find?_some h⟩

/-- An action forks at the parent of a stored message. -/
theorem loadMessageGenerationActionContext_ok
    (h : loadMessageGenerationActionContext uuid conversationId branchId expectedHead
      targetMessageId action store = .ok context) :
    ∃ row ∈ store.messages.rows, context.forkMessageId = row.parentId := by
  obtain ⟨target, htgt, h⟩ := bind_ok.mp h
  obtain ⟨_, hlin, _⟩ := loadBranchActionTarget_ok htgt
  cases action with
  | editUser =>
    obtain ⟨_, h⟩ := guard_ok.mp h
    cases pure_inj h
    exact ⟨target, mem_of_mem_branchLineage hlin, rfl⟩
  | regenerateAssistant =>
    obtain ⟨_, _, _, h⟩ := rest₃ h
    obtain ⟨user, huser, _, h⟩ := step_guard h
    cases pure_inj h
    rw [okOr_ok] at huser
    exact ⟨user, (messageIn_eq_some.mp huser).1, rfl⟩

/-- What an accepted action adds to the store, and what it has checked. -/
structure ActionAppended (uuid : String) (sourceBranchId : String)
    (expectedSourceHead : Option String) (targetMessageId : String)
    (action : MessageGenerationAction) (branch : ConversationBranch) (user assistant : Message)
    (generation : GenerationRecord) (store store' : Store) : Prop where
  valid : AppendValid branch.id branch.forkMessageId user assistant generation
  branchConversation : branch.conversationId = user.conversationId
  branchHead : branch.headMessageId = some assistant.id
  context : ∃ userText, loadMessageGenerationActionContext uuid user.conversationId sourceBranchId
    expectedSourceHead targetMessageId action store =
      .ok { forkMessageId := branch.forkMessageId, userText } ∧
    (action = .regenerateAssistant → userText = user.content)
  messages : store'.messages.rows = store.messages.rows ++ [user, assistant]
  branches : store'.branches.rows = store.branches.rows ++ [branch]
  generations : store'.generations.rows = store.generations.rows ++ [generation]

theorem appendMessageGenerationAction_ok
    (h : appendMessageGenerationAction X uuid catalog sourceBranchId expectedSourceHead
      targetMessageId action branch user assistant generation now store = .ok store') :
    ActionAppended uuid sourceBranchId expectedSourceHead targetMessageId action branch user
      assistant generation store store' ∧ Enforced X.sqlite store' := by
  obtain ⟨_, hval, h⟩ := bind_ok.mp h
  have hval := validateGenerationAppend_ok hval
  obtain ⟨⟨hconv, hbrHead, _⟩, ⟨fork, userText⟩, hctx, h⟩ := guard_step h
  obtain ⟨⟨hfork, htext⟩, h⟩ := guard_ok.mp h
  obtain ⟨s₁, h₁, s₂, h₂, s₃, h₃, h⟩ := steps₃ h
  obtain ⟨s₄, h₄, ⟨changed, s₅⟩, h₅, h⟩ := steps₂ h
  obtain ⟨_, h⟩ := guard_ok.mp h
  obtain ⟨messages₁, hmsgs₁, rfl, _⟩ := insertMessage_ok h₁
  obtain ⟨messages₂, hmsgs₂, rfl, _⟩ := insertMessage_ok h₂
  obtain ⟨branches, hbrs, rfl, _⟩ := insertBranchRow_ok (execute_ok.mp h₃)
  obtain ⟨generations, hgens, rfl, _⟩ := insertGeneration_ok h₄
  obtain ⟨_, rfl, _⟩ := updateStates_ok (execute_ok.mp h₅)
  obtain ⟨_, rfl, henf⟩ := touchConversation_ok (execute_ok.mp h)
  refine ⟨?_, henf⟩
  refine {
    valid := hval
    branchConversation := hconv
    branchHead := hbrHead
    context := ⟨userText, hfork ▸ hctx, fun hact => ?_⟩
    messages := ?_
    branches := hbrs
    generations := hgens }
  · by_contra hne
    exact htext ⟨hact, hne⟩
  · show messages₂.rows = _
    rw [hmsgs₂, hmsgs₁, append_assoc]
    rfl

theorem appendMessageGenerationAction_effect (hc : Consistent store) (he : Enforced X.sqlite store)
    (h : appendMessageGenerationAction X uuid catalog sourceBranchId expectedSourceHead
      targetMessageId action branch user assistant generation now store = .ok store') :
    Starts user assistant generation store store' ∧ Enforced X.sqlite store' := by
  obtain ⟨happd, henf⟩ := appendMessageGenerationAction_ok h
  have hval := happd.valid
  have hsett : store.Settled branch.forkMessageId := by
    obtain ⟨userText, hctx, _⟩ := happd.context
    obtain ⟨row, hrow, hctxFork⟩ := loadMessageGenerationActionContext_ok hctx
    have hfork : branch.forkMessageId = row.parentId := hctxFork
    rw [hfork]
    exact hc.settled_parent he hrow
  refine ⟨?_, henf⟩
  refine {
    messages := happd.messages
    generations := happd.generations
    userRole := hval.userRole
    userComplete := hval.userComplete
    userParent := hval.userParent ▸ hsett
    assistantRole := hval.assistantRole
    assistantPending := hval.assistantPending
    assistantParent := hval.assistantParent
    running := hval.running
    owns := hval.owns
    branches := ?_
    pendingHeads := ?_
    head := ?_ }
  · intro branch' hbr'
    rw [happd.branches, mem_append, mem_singleton] at hbr'
    rcases hbr' with hbr' | rfl
    · exact .inl hbr'
    · exact .inr ⟨hval.branch.symm, happd.branchHead, .inr hsett⟩
  · intro old hold _ _ _ _
    rw [happd.branches]
    exact mem_append_left _ hold
  · refine ⟨branch, ?_, hval.branch.symm, happd.branchHead⟩
    rw [happd.branches]
    exact mem_append_right _ (mem_singleton_self branch)

/-- What an accepted removal has checked, and what it changes. -/
theorem removeMessageFromBranch_ok
    (h : removeMessageFromBranch X uuid conversationId branchId expectedHead targetMessageId now
      store = .ok (store', branch)) :
    ∃ target, loadBranchActionTarget uuid conversationId branchId expectedHead targetMessageId
        store = .ok target ∧
      store'.messages = store.messages ∧ store'.generations = store.generations ∧
      (store'.branches.rows = store.branches.rows.map fun row =>
        if row.id == branchId && row.conversationId == conversationId &&
          row.headMessageId == expectedHead then
          { row with headMessageId := target.parentId, updatedAt := now } else row) ∧
      Enforced X.sqlite store' := by
  obtain ⟨target, htgt, h⟩ := bind_ok.mp h
  obtain ⟨_, _, _, h⟩ := rest₃ h
  obtain ⟨⟨changed, s₁⟩, h₁, _, h⟩ := step_guard h
  obtain ⟨⟨_, s₂⟩, h₂, s₃, h₃, _, _, h⟩ := steps₃ h
  obtain ⟨⟨branches, rfl, hbrs⟩, _, _⟩ := moveBranchHead_ok h₁
  obtain ⟨_, rfl, _⟩ := updateStates_ok (execute_ok.mp h₂)
  obtain ⟨_, rfl, henf⟩ := touchConversation_ok (execute_ok.mp h₃)
  cases pure_inj h
  exact ⟨target, htgt, rfl, rfl, hbrs, henf⟩

theorem removeMessageFromBranch_effect (hc : Consistent store) (he : Enforced X.sqlite store)
    (h : removeMessageFromBranch X uuid conversationId branchId expectedHead targetMessageId now
      store = .ok (store', branch)) : Effect store store' ∧ Enforced X.sqlite store' := by
  obtain ⟨target, htgt, hmsgs, hgens, hbrs, henf⟩ := removeMessageFromBranch_ok h
  obtain ⟨hsnap, hlin, _⟩ := loadBranchActionTarget_ok htgt
  obtain ⟨_, _, _, _, _, hold⟩ := validateBranchActionSnapshot_ok hsnap
  have hnew : store.Settled target.parentId := hc.settled_parent he (mem_of_mem_branchLineage hlin)
  exact ⟨.settles _ (.of_moveHead hmsgs hbrs hgens hnew hold), henf⟩

end LorePia.Conversations
