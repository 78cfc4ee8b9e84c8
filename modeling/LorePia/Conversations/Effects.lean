import LorePia.Conversations.Operations

namespace LorePia.Conversations

open Lib List
open DiscoveryStore (SqliteError SqliteJson)

/-!
# The conversation store — what an operation can do

Two things happen to the messages of a store: a generation is started (`Starts`), which adds
a user message and its pending reply; or nothing is added (`Settles`), and the replies of some
generations, possibly of none, reach a terminal state or go.  In either case some branch heads
may move, but only away from or to messages that are not pending.

The lemmas before that invert single statements; each operation then is a `Starts` or a
`Settles`, proved in the module on the invariant, where a store is known to be consistent.
-/

variable {row : Message} {catalog : Catalog} {id : String} {branch : ConversationBranch}
  {conversationId : String}

/-! ### Statements -/

/-- The store satisfies the constraints of its tables. -/
structure Enforced (J : SqliteJson) (store : Store) : Prop where
  checks : store.checks J = true
  uniqueKeys : store.uniqueKeys = true
  foreignKeys : store.foreignKeys = true

section Statements

variable {J : SqliteJson} {store store' : Store}

theorem enforce_eq_ok : store.enforce J = .ok store' ↔ store' = store ∧ Enforced J store := by
  rw [Store.enforce, guard_ok, guard_ok, guard_ok, pure_ok, Except.ok.injEq]
  constructor
  · rintro ⟨hchecks, huniq, hforeign, rfl⟩
    exact ⟨rfl, hchecks, huniq, hforeign⟩
  · rintro ⟨rfl, h⟩
    exact ⟨h.checks, h.uniqueKeys, h.foreignKeys, rfl⟩

theorem enforce_counted {count : Nat}
    (h : (store.enforce J >>= fun next => pure (count, next)) = .ok (changed, store')) :
    changed = count ∧ store' = store ∧ Enforced J store' := by
  obtain ⟨_, hupd, hret⟩ := bind_ok.mp h
  obtain ⟨rfl, henf⟩ := enforce_eq_ok.mp hupd
  cases pure_inj hret
  exact ⟨rfl, rfl, henf⟩

theorem insertConversationRow_ok {row : Conversation}
    (h : store.insertConversationRow J catalog row = .ok store') :
    ∃ conversations, store' = { store with conversations } ∧ Enforced J store' := by
  obtain ⟨conversations, _, _, h⟩ := step_guard h
  obtain ⟨rfl, henf⟩ := enforce_eq_ok.mp h
  exact ⟨conversations, rfl, henf⟩

theorem insertMessageRow_ok (h : store.insertMessageRow J row = .ok store') :
    ∃ messages, messages.rows = store.messages.rows ++ [row] ∧
      store' = { store with messages } ∧ Enforced J store' := by
  obtain ⟨messages, hins, h⟩ := bind_ok.mp h
  obtain ⟨rfl, henf⟩ := enforce_eq_ok.mp h
  rw [okOr_ok, Table.insert?_eq_some] at hins
  exact ⟨messages, hins.2, rfl, henf⟩

theorem insertBranchRow_ok {row : ConversationBranch}
    (h : store.insertBranchRow J row = .ok store') :
    ∃ branches, branches.rows = store.branches.rows ++ [row] ∧
      store' = { store with branches } ∧ Enforced J store' := by
  obtain ⟨branches, hins, h⟩ := bind_ok.mp h
  obtain ⟨rfl, henf⟩ := enforce_eq_ok.mp h
  rw [okOr_ok, Table.insert?_eq_some] at hins
  exact ⟨branches, hins.2, rfl, henf⟩

theorem insertStateRow_ok {row : ConversationState} (h : store.insertStateRow J row = .ok store') :
    ∃ states, store' = { store with states } ∧ Enforced J store' := by
  obtain ⟨states, _, h⟩ := bind_ok.mp h
  obtain ⟨rfl, henf⟩ := enforce_eq_ok.mp h
  exact ⟨states, rfl, henf⟩

theorem insertGenerationRow_ok {row : GenerationRecord}
    (h : store.insertGenerationRow J catalog row = .ok store') :
    ∃ generations, generations.rows = store.generations.rows ++ [row] ∧
      store' = { store with generations } ∧ Enforced J store' := by
  obtain ⟨_, generations, hins, h⟩ := guard_step h
  obtain ⟨rfl, henf⟩ := enforce_eq_ok.mp h
  rw [okOr_ok, Table.insert?_eq_some] at hins
  exact ⟨generations, hins.2, rfl, henf⟩

theorem touchConversation_ok (h : store.touchConversation J conversationId now = .ok store') :
    ∃ conversations, store' = { store with conversations } ∧ Enforced J store' := by
  obtain ⟨rfl, henf⟩ := enforce_eq_ok.mp h
  exact ⟨_, rfl, henf⟩

theorem updateMessages_eq_ok {hf : ∀ r, (f r).id = r.id}
    (h : store.updateMessages J p f hf = .ok (changed, store')) :
    changed = store.messages.rows.countP p ∧
      store' = { store with messages := store.messages.updateWhere p f hf } ∧
      Enforced J store' := by
  exact enforce_counted h

theorem updateBranches_eq_ok {p : ConversationBranch → Bool} {hf : ∀ r, (f r).id = r.id}
    (h : store.updateBranches J p f hf = .ok (changed, store')) :
    changed = store.branches.rows.countP p ∧
      store' = { store with branches := store.branches.updateWhere p f hf } ∧
      Enforced J store' := by
  exact enforce_counted h

theorem updateStates_ok {p : ConversationState → Bool}
    {hf : ∀ r, (f r).conversationId = r.conversationId}
    (h : store.updateStates J p f hf = .ok (changed, store')) :
    ∃ states, store' = { store with states } ∧ Enforced J store' := by
  obtain ⟨-, rfl, henf⟩ := enforce_counted h
  exact ⟨_, rfl, henf⟩

theorem updateGenerations_eq_ok {p : GenerationRecord → Bool} {hf : ∀ r, (f r).id = r.id}
    (h : store.updateGenerations J catalog p f hf = .ok (changed, store')) :
    changed = store.generations.rows.countP p ∧
      store' = { store with generations := store.generations.updateWhere p f hf } ∧
      Enforced J store' := by
  exact enforce_counted (guard_ok.mp h).2

theorem deleteMessages_eq_ok (h : store.deleteMessages J p = .ok (changed, store')) :
    changed = store.messages.rows.countP p ∧ store' = { store with
        messages := store.messages.deleteWhere p
        generations := store.generations.updateWhere
          (fun row => row.assistantMessageId.any fun id => (store.messages.find? id).any p)
          (fun row => { row with assistantMessageId := none }) fun _ => rfl } ∧
      Enforced J store' := by
  exact enforce_counted h

end Statements

/-! ### What the constraints say -/

section Constraints

variable {J : SqliteJson} {store : Store} (h : Enforced J store)

theorem messageIn_eq_some :
    store.messageIn conversationId id = some row ↔
      row ∈ store.messages.rows ∧ row.id = id ∧ row.conversationId = conversationId := by
  rw [Store.messageIn, Option.filter_eq_some_iff, Table.find?_eq_some, beq_iff_eq, and_assoc]

include h

theorem Enforced.parent (hrow : row ∈ store.messages.rows) (hid : row.parentId = some id) :
    ∃ parent ∈ store.messages.rows, parent.id = id ∧
      parent.conversationId = row.conversationId := by
  have hforeign := h.foreignKeys
  simp only [Store.foreignKeys, Bool.and_eq_true, all_eq_true] at hforeign
  obtain ⟨_, hpar⟩ := hforeign.1.1.1 row hrow
  rw [hid, Option.all_some, Option.isSome_iff_exists] at hpar
  obtain ⟨parent, hpar⟩ := hpar
  exact ⟨parent, messageIn_eq_some.mp hpar⟩

theorem Enforced.head (hbr : branch ∈ store.branches.rows) (hid : branch.headMessageId = some id) :
    ∃ head ∈ store.messages.rows, head.id = id ∧ head.conversationId = branch.conversationId := by
  have hforeign := h.foreignKeys
  simp only [Store.foreignKeys, Bool.and_eq_true, all_eq_true] at hforeign
  obtain ⟨_, hhead⟩ := hforeign.1.1.2 branch hbr
  rw [hid, Option.all_some, Option.isSome_iff_exists] at hhead
  obtain ⟨head, hhead⟩ := hhead
  exact ⟨head, messageIn_eq_some.mp hhead⟩

theorem Enforced.fork (hbr : branch ∈ store.branches.rows) (hid : branch.forkMessageId = some id) :
    ∃ fork ∈ store.messages.rows, fork.id = id ∧ fork.conversationId = branch.conversationId := by
  have hforeign := h.foreignKeys
  simp only [Store.foreignKeys, Bool.and_eq_true, all_eq_true] at hforeign
  obtain ⟨⟨_, hfork⟩, _⟩ := hforeign.1.1.2 branch hbr
  rw [hid, Option.all_some, Option.isSome_iff_exists] at hfork
  obtain ⟨fork, hfork⟩ := hfork
  exact ⟨fork, messageIn_eq_some.mp hfork⟩

/-- Only an assistant message can be other than complete. -/
theorem Enforced.role_of_not_complete (hrow : row ∈ store.messages.rows)
    (hstat : row.status ≠ .complete) : row.role = .assistant := by
  have hchecks := h.checks
  simp only [Store.checks, Bool.and_eq_true, all_eq_true] at hchecks
  have hrow' := hchecks.1.1 row hrow
  simp only [Message.checks, Bool.and_eq_true, Bool.or_eq_true, beq_iff_eq] at hrow'
  exact hrow'.1.2.resolve_right hstat

end Constraints

/-! ### The two effects -/

/-- The generation and the reply name each other, and agree on the user message. -/
structure Owns (generation : GenerationRecord) (reply : Message) : Prop where
  ofGeneration : reply.generationId = some generation.id
  isAssistant : generation.assistantMessageId = some reply.id
  belowUser : reply.parentId = some generation.userMessageId
  inConversation : reply.conversationId = generation.conversationId

/-- The two rows are one message, whose content and status may differ. -/
structure SameNode (row row' : Message) : Prop where
  id : row'.id = row.id
  conversationId : row'.conversationId = row.conversationId
  parentId : row'.parentId = row.parentId
  role : row'.role = row.role
  generationId : row'.generationId = row.generationId

/-- The identifier, if any, is that of a message which is not pending. -/
def Store.Settled (store : Store) (id : Option String) : Prop :=
  ∀ i, id = some i → ∃ row ∈ store.messages.rows, row.id = i ∧ row.status ≠ .pending

/-- No message is added; the generations in `ended` end, with their replies. -/
structure Settles (ended : String → Prop) (store store' : Store) : Prop where
  kept : ∀ row ∈ store.messages.rows, row.status ≠ .pending → row ∈ store'.messages.rows
  edited : ∀ row' ∈ store'.messages.rows, ∃ row ∈ store.messages.rows,
    SameNode row row' ∧ (row.status ≠ .pending → row' = row)
  unended : ∀ row ∈ store.messages.rows, row.status = .pending →
    (∀ id, row.generationId = some id → ¬ ended id) →
    ∃ row' ∈ store'.messages.rows, row'.status = .pending ∧ SameNode row row'
  pending : ∀ row' ∈ store'.messages.rows, row'.status = .pending →
    ∀ id, row'.generationId = some id → ¬ ended id
  running : ∀ generation, generation ∈ store'.generations.rows ∧ generation.status = .running ↔
    generation ∈ store.generations.rows ∧ generation.status = .running ∧ ¬ ended generation.id
  heads : ∀ branch' ∈ store'.branches.rows,
    (∃ branch ∈ store.branches.rows, branch.id = branch'.id ∧
      branch.headMessageId = branch'.headMessageId) ∨ store.Settled branch'.headMessageId
  pendingHeads : ∀ branch ∈ store.branches.rows, ∀ row ∈ store.messages.rows,
    row.status = .pending → branch.headMessageId = some row.id →
    (∀ id, row.generationId = some id → ¬ ended id) →
    ∃ branch' ∈ store'.branches.rows, branch'.id = branch.id ∧
      branch'.headMessageId = branch.headMessageId
  forks : ∀ branch' ∈ store'.branches.rows,
    (∃ branch ∈ store.branches.rows, branch.forkMessageId = branch'.forkMessageId) ∨
      store.Settled branch'.forkMessageId

/-- A complete user message and its pending reply are added, with a running generation whose
    branch gets the reply as its head. -/
structure Starts (user assistant : Message) (generation : GenerationRecord)
    (store store' : Store) : Prop where
  messages : store'.messages.rows = store.messages.rows ++ [user, assistant]
  generations : store'.generations.rows = store.generations.rows ++ [generation]
  userRole : user.role = .user
  userComplete : user.status = .complete
  userParent : store.Settled user.parentId
  assistantRole : assistant.role = .assistant
  assistantPending : assistant.status = .pending
  assistantParent : assistant.parentId = some user.id
  running : generation.status = .running
  owns : Owns generation assistant
  branches : ∀ branch' ∈ store'.branches.rows, branch' ∈ store.branches.rows ∨
    branch'.id = generation.branchId ∧ branch'.headMessageId = some assistant.id ∧
      ((∃ branch ∈ store.branches.rows, branch.forkMessageId = branch'.forkMessageId) ∨
        store.Settled branch'.forkMessageId)
  pendingHeads : ∀ branch ∈ store.branches.rows, ∀ row ∈ store.messages.rows,
    row.status = .pending → branch.headMessageId = some row.id → branch ∈ store'.branches.rows
  head : ∃ branch' ∈ store'.branches.rows, branch'.id = generation.branchId ∧
    branch'.headMessageId = some assistant.id

theorem SameNode.refl (row : Message) : SameNode row row := ⟨rfl, rfl, rfl, rfl, rfl⟩

theorem Owns.of_sameNode {generation : GenerationRecord} (h : Owns generation row)
    (hsame : SameNode row row') : Owns generation row' where
  ofGeneration := hsame.generationId.trans h.ofGeneration
  isAssistant := h.isAssistant.trans (congrArg some hsame.id.symm)
  belowUser := hsame.parentId.trans h.belowUser
  inConversation := hsame.conversationId.trans h.inConversation

theorem Store.settled_none (store : Store) : store.Settled none := by
  intro i hi
  cases hi

/-- A pending row is not what a settled identifier names. -/
theorem Store.Settled.ne {store : Store} {id : Option String} (h : store.Settled id) (hrow : row ∈ store.messages.rows) (hpend : row.status = .pending) :
    id ≠ some row.id := by
  intro hid
  obtain ⟨row', hrow', hsame, hstat⟩ := h row.id hid
  have heq : row' = row := Table.eq_of_key hrow' hrow hsame
  exact hstat (heq ▸ hpend)

end LorePia.Conversations
