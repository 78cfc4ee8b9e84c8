import LorePia.Conversations.History

namespace LorePia.Conversations

open Lib List Operation Table

/-!
# The conversation store — message actions

An edit or a regeneration forks a new branch before the turn of its target, and a removal cuts
its branch before the target.  The lineages of all other branches stay as they are, although
branches share their messages.

* `Sound.chain` — the lineage of a branch follows the parent links to their end;
* `Sound.listBranchMessages_eq` — a branch that stays reads the same in a store that has its
  messages;
* `Sound.append` and `Sound.remove` — what an accepted action does to the lineages;
* `actions_of_reachable` — the same in every reachable store, and what a rejected call does.
-/

variable {branch : ConversationBranch} {branchId : String} {row : Message}
  {action : MessageGenerationAction} {conversationId now targetMessageId : String}
  {expectedHead : Option String} {operation : Operation}

variable {X : Externals} {uuid : String} {store store' : Store}

/-! ### Lineages -/

theorem mem_of_branchHead :
    ∀ row ∈ store.branchHead branchId, row ∈ store.messages.rows := by
  intro row hrow
  obtain ⟨_, _, _, _, hmem, _⟩ := branchHead_eq_some.mp hrow
  exact hmem

/-- The links from the head of a branch visit its lineage. -/
theorem Sound.chain (hs : Sound X store) (branchId : String) :
    Chain store.parentOf (store.branchHead branchId) (branchLineage branchId store) := by
  obtain ⟨lineage, hchain, hlen⟩ := hs.consistent.exists_lineage mem_of_branchHead
  rw [branchLineage, hchain.ancestry_eq hlen]
  exact hchain

theorem Sound.branchLineage_eq (hs : Sound X store)
    (h : Chain store.parentOf (store.branchHead branchId) lineage) :
    branchLineage branchId store = lineage :=
  (hs.chain branchId).unique h

/-- A lineage stays in the conversation of its branch. -/
theorem conversation_of_mem_branchLineage (hbr : branch ∈ store.branches.rows)
    (h : row ∈ branchLineage branch.id store) : row.conversationId = branch.conversationId := by
  refine forall_mem_ancestry (P := fun row => row.conversationId = branch.conversationId)
    (fun a ha => ?_) (fun a b ha hb => ?_) row h
  · obtain ⟨other, hoth, hid, _, _, hconv⟩ := branchHead_eq_some.mp ha
    have hsame : other = branch := eq_of_key hoth hbr hid
    exact hsame ▸ hconv
  · obtain ⟨_, _, hconv⟩ := parentOf_eq_some.mp hb
    exact hconv.trans ha

section

variable (hs : Sound X store)
include hs

section

variable (hmem : ∀ row ∈ store.messages.rows, row ∈ store'.messages.rows)
include hmem

/-- The parent links of the messages that two stores share are the same. -/
theorem parentOf_of_mem
    (hrow : row ∈ store.messages.rows) : store'.parentOf row = store.parentOf row :=
  parentOf_of_kept hs (fun old hold _ => hmem old hold) hrow

/-- A chain of parent links is one in every store that has the messages. -/
theorem chain_of_mem {start : Option Message} (h : Chain store.parentOf start lineage)
    (hstart : ∀ row ∈ start, row ∈ store.messages.rows) : Chain store'.parentOf start lineage := by
  have hrows : ∀ row ∈ lineage, row ∈ store.messages.rows :=
    h.forall_mem hstart fun a b _ hb => (parentOf_eq_some.mp hb).2.1
  exact h.congr fun row hrow => parentOf_of_mem hs hmem (hrows row hrow)

/-- A branch that stays has the same head, in a store that has its messages. -/
theorem Sound.branchHead_eq (hbr : branch ∈ store.branches.rows)
    (hbr' : branch ∈ store'.branches.rows) :
    store'.branchHead branch.id = store.branchHead branch.id := by
  ext row
  rw [branchHead_eq_some, branchHead_eq_some]
  constructor
  · rintro ⟨other, hoth, hid, hhead, hrow, hconv⟩
    have hsame : other = branch := eq_of_key hoth hbr' hid
    subst hsame
    -- the head was there before, and its identifier names one message now
    obtain ⟨old, hold, holdId, _⟩ := hs.enforced.head hbr hhead
    have hrows : old = row := eq_of_key (hmem old hold) hrow holdId
    exact ⟨other, hbr, rfl, hhead, hrows ▸ hold, hconv⟩
  · rintro ⟨other, hoth, hid, hhead, hrow, hconv⟩
    have hsame : other = branch := eq_of_key hoth hbr hid
    subst hsame
    exact ⟨other, hbr', rfl, hhead, hmem row hrow, hconv⟩

end

/-- A branch that stays reads the same, in a store that has its messages. -/
theorem Sound.listBranchMessages_eq (hs' : Sound X store')
    (hmem : ∀ row ∈ store.messages.rows, row ∈ store'.messages.rows) (hbr : branch ∈ store.branches.rows)
    (hbr' : branch ∈ store'.branches.rows) :
    listBranchMessages branch.id store' = listBranchMessages branch.id store := by
  have hchain := chain_of_mem hs hmem (hs.chain branch.id) mem_of_branchHead
  rw [← hs.branchHead_eq hmem hbr hbr'] at hchain
  rw [listBranchMessages, listBranchMessages, hs'.branchLineage_eq hchain]

/-- Where a message stands in a lineage, the parent links from it visit the messages before
    it. -/
theorem Sound.chain_before (h : row ∈ branchLineage branchId store) :
    ∃ newer older, branchLineage branchId store = newer ++ row :: older ∧
      Chain store.parentOf (store.parentOf row) older := by
  obtain ⟨newer, older, hsplit⟩ := append_of_mem h
  have hchain := hs.chain branchId
  rw [hsplit] at hchain
  exact ⟨newer, older, hsplit, hchain.behind⟩

end

/-! ### Edits and regenerations -/

/-- The messages of the turn an action replaces: the edited user message, or the target and the
    user message it answers. -/
def IsTurn (action : MessageGenerationAction) (targetMessageId : String)
    (original : Message) (turn : List Message) : Prop :=
  original.role = .user ∧ original.status = .complete ∧
  match action with
  | .editUser => turn = [original] ∧ original.id = targetMessageId
  | .regenerateAssistant => ∃ target, turn = [original, target] ∧ target.id = targetMessageId ∧
      target.role = .assistant ∧ target.parentId = some original.id

/-- The context of an action is read off the turn of its target. -/
theorem Sound.exists_turn (hs : Sound X store)
    (h : loadMessageGenerationActionContext uuid conversationId branchId expectedHead
      targetMessageId action store = .ok context) :
    ∃ older original turn newer, branchLineage branchId store = newer ++ turn.reverse ++ older ∧
      IsTurn action targetMessageId original turn ∧ original ∈ store.messages.rows ∧
      original.conversationId = conversationId ∧
      Chain store.parentOf (store.parentOf original) older ∧
      context = { forkMessageId := original.parentId, userText := original.content } := by
  obtain ⟨target, htgt, hctx⟩ := bind_ok.mp h
  obtain ⟨hsnap, hlin, hid⟩ := loadBranchActionTarget_ok htgt
  obtain ⟨branch, hbr, rfl, hconv, _, _⟩ := validateBranchActionSnapshot_ok hsnap
  have hrow := mem_of_mem_branchLineage hlin
  have htgtConv : target.conversationId = conversationId :=
    (conversation_of_mem_branchLineage hbr hlin).trans hconv
  obtain ⟨newer, older, hsplit, hchain⟩ := hs.chain_before hlin
  cases action with
  | editUser =>
    obtain ⟨⟨hrole, hcompl⟩, hctx⟩ := guard_ok.mp hctx
    refine ⟨older, target, [target], newer, ?_, ⟨hrole, hcompl, rfl, hid⟩, hrow,
      htgtConv, hchain, (pure_inj hctx).symm⟩
    rw [hsplit]
    simp
  | regenerateAssistant =>
    obtain ⟨hrole, _, hctx⟩ := guards₂ hctx
    obtain ⟨userMessageId, hpar, original, horiginal, hctx⟩ := steps₂ hctx
    obtain ⟨⟨huserRole, hcompl⟩, hres⟩ := guard_ok.mp hctx
    rw [okOr_ok] at hpar horiginal
    obtain ⟨hmem, rfl, horiginalConv⟩ := messageIn_eq_some.mp horiginal
    have hlink : store.parentOf target = some original := parentOf_eq_some.mpr
      ⟨hpar, hmem, horiginalConv.trans htgtConv.symm⟩
    -- the message before the target is the one it answers
    rw [hlink] at hchain
    cases hchain with
    | @cons _ before hchain =>
      refine ⟨before, original, [original, target], newer, ?_,
        ⟨huserRole, hcompl, target, rfl, hid, hrole, hpar⟩, hmem, horiginalConv,
        hchain, (pure_inj hres).symm⟩
      rw [hsplit]
      simp

/-- **An edit or a regeneration.** The lineages of the existing branches stay.  The new branch
    has the source lineage up to the turn of the target, then the two new messages. -/
theorem Sound.append (hs : Sound X store) {catalog : Catalog} {generation : GenerationRecord}
    (h : appendMessageGenerationAction X uuid catalog sourceBranchId expectedSourceHead
      targetMessageId action branch user assistant generation now store = .ok store') :
    (∀ old ∈ store.branches.rows, old.id ≠ branch.id ∧
      listBranchMessages old.id store' = listBranchMessages old.id store) ∧
    (user.role = .user ∧ user.status = .complete ∧
      assistant.role = .assistant ∧ assistant.status = .pending ∧
      ∀ row ∈ store.messages.rows, row.id ≠ user.id ∧ row.id ≠ assistant.id) ∧
    ∃ before original turn after,
      listBranchMessages sourceBranchId store = before ++ turn ++ after ∧
      IsTurn action targetMessageId original turn ∧
      listBranchMessages branch.id store' = before ++ [user, assistant] ∧
      (action = .regenerateAssistant → user.content = original.content) := by
  obtain ⟨hstarts, henf⟩ := appendMessageGenerationAction_effect hs.consistent hs.enforced h
  obtain ⟨happd, _⟩ := appendMessageGenerationAction_ok h
  have hval := happd.valid
  have hs' : Sound X store' := ⟨hs.consistent.starts hs.enforced hstarts, henf⟩
  have hmem : ∀ row ∈ store.messages.rows, row ∈ store'.messages.rows := by
    intro row hrow
    rw [happd.messages]
    exact mem_append_left _ hrow
  have hold : ∀ old ∈ store.branches.rows, old ∈ store'.branches.rows := by
    intro old hold
    rw [happd.branches]
    exact mem_append_left _ hold
  refine ⟨fun old hmemOld => ⟨?_, hs.listBranchMessages_eq hs' hmem hmemOld (hold old hmemOld)⟩,
    ⟨hval.userRole, hval.userComplete, hval.assistantRole, hval.assistantPending, ?_⟩, ?_⟩
  · exact key_ne_of_append happd.branches hmemOld (mem_singleton_self branch)
  · intro row hrow
    exact ⟨key_ne_of_append happd.messages hrow (by simp),
      key_ne_of_append happd.messages hrow (by simp)⟩
  · obtain ⟨userText, hctx, htext⟩ := happd.context
    obtain ⟨older, original, turn, newer, hsplit, hturn, hmemOriginal, hconv, hchain,
      heq⟩ := hs.exists_turn hctx
    rw [MessageGenerationActionContext.mk.injEq] at heq
    obtain ⟨hfork, rfl⟩ := heq
    refine ⟨older.reverse, original, turn, newer.reverse, ?_, hturn, ?_, fun hact =>
      (htext hact).symm⟩
    · rw [listBranchMessages, hsplit]
      simp
    · have huser : user ∈ store'.messages.rows := by
        rw [happd.messages]
        simp
      have hasst : assistant ∈ store'.messages.rows := by
        rw [happd.messages]
        simp
      have hbr : branch ∈ store'.branches.rows := by
        rw [happd.branches]
        simp
      -- the new messages, then what came before the turn
      have hhead : store'.branchHead branch.id = some assistant := branchHead_eq_some.mpr
        ⟨branch, hbr, rfl, happd.branchHead, hasst,
          hval.conversation.trans happd.branchConversation.symm⟩
      have hreply : store'.parentOf assistant = some user :=
        parentOf_eq_some.mpr ⟨hval.assistantParent, huser, hval.conversation.symm⟩
      have hbef : store'.parentOf user = store.parentOf original := by
        rw [← parentOf_of_mem hs hmem hmemOriginal]
        show user.parentId.bind _ = original.parentId.bind _
        rw [hval.userParent, hfork, hconv]
      have hchain' : Chain store'.parentOf (store'.branchHead branch.id)
          (assistant :: user :: older) := by
        rw [hhead]
        refine .cons ?_
        rw [hreply]
        refine .cons ?_
        rw [hbef]
        exact chain_of_mem hs hmem hchain fun row hrow => (parentOf_eq_some.mp hrow).2.1
      rw [listBranchMessages, hs'.branchLineage_eq hchain']
      simp

/-! ### Removals -/

/-- **A removal.** The branch keeps what stands before the target; all other branches stay. -/
theorem Sound.remove (hs : Sound X store)
    (h : removeMessageFromBranch X uuid conversationId branchId expectedHead targetMessageId now
      store = .ok (store', branch)) :
    (∃ before target after, listBranchMessages branchId store = before ++ target :: after ∧
      target.id = targetMessageId ∧ listBranchMessages branchId store' = before) ∧
    ∀ other ∈ store.branches.rows, other.id ≠ branchId →
      listBranchMessages other.id store' = listBranchMessages other.id store := by
  obtain ⟨target, htgt, hmsgs, _, hbrs, henf⟩ := removeMessageFromBranch_ok h
  obtain ⟨heff, _⟩ := removeMessageFromBranch_effect hs.consistent hs.enforced h
  have hs' : Sound X store' := ⟨hs.consistent.effect hs.enforced heff, henf⟩
  have hmem : ∀ row ∈ store.messages.rows, row ∈ store'.messages.rows := by
    rw [hmsgs]
    exact fun row hrow => hrow
  obtain ⟨hsnap, hlin, hid⟩ := loadBranchActionTarget_ok htgt
  obtain ⟨stored, hstored, hstoredId, hconv, hhead, _⟩ := validateBranchActionSnapshot_ok hsnap
  constructor
  · obtain ⟨newer, older, hsplit, hchain⟩ := hs.chain_before hlin
    have htgtConv : target.conversationId = stored.conversationId :=
      conversation_of_mem_branchLineage hstored (hstoredId ▸ hlin)
    refine ⟨older.reverse, target, newer.reverse, ?_, hid, ?_⟩
    · rw [listBranchMessages, hsplit]
      simp
    · -- the moved branch starts from the parent of the target
      have hmoved : ({ stored with headMessageId := target.parentId, updatedAt := now } :
          ConversationBranch) ∈ store'.branches.rows := by
        rw [hbrs, mem_map]
        refine ⟨stored, hstored, if_pos ?_⟩
        simp [hstoredId, hconv, hhead]
      have hfind : store'.branches.find? branchId =
          some { stored with headMessageId := target.parentId, updatedAt := now } :=
        find?_eq_some.mpr ⟨hmoved, hstoredId⟩
      have hstart : store'.branchHead branchId = store.parentOf target := by
        rw [Store.branchHead, hfind, ← parentOf_of_mem hs hmem (mem_of_mem_branchLineage hlin)]
        show target.parentId.bind (store'.messageIn stored.conversationId) = _
        rw [← htgtConv]
        rfl
      have hchain' : Chain store'.parentOf (store'.branchHead branchId) older := by
        rw [hstart]
        exact chain_of_mem hs hmem hchain fun row hrow => (parentOf_eq_some.mp hrow).2.1
      rw [listBranchMessages, hs'.branchLineage_eq hchain']
  · intro other hoth hne
    refine hs.listBranchMessages_eq hs' hmem hoth ?_
    rw [hbrs, mem_map]
    refine ⟨other, hoth, if_neg ?_⟩
    simp [hne]

/-! ### Calls -/

/-- A call is one transaction: it commits, or it answers an error and is rolled back. -/
def Operation.call (X : Externals) (uuid : String) (operation : Operation) (store : Store) :
    CoreResult Unit × Store :=
  match operation.run X uuid store with
  | .ok store' => (.ok (), store')
  | .error error => (.error error, store)

theorem Operation.call_ok :
    operation.call X uuid store = (.ok (), store') ↔ operation.run X uuid store = .ok store' := by
  unfold call
  cases operation.run X uuid store with
  | ok s => simp
  | error error => simp

theorem Operation.call_eq_error {error : CoreError}
    (h : operation.call X uuid store = (.error error, store')) : store' = store := by
  unfold call at h
  cases hrun : operation.run X uuid store with
  | ok s =>
    rw [hrun] at h
    cases (Prod.mk.inj h).1
  | error e =>
    rw [hrun] at h
    exact (Prod.mk.inj h).2.symm

/-- **Edit, regenerate and remove.** In every reachable store, an accepted edit or regeneration
    adds a branch that has the source lineage up to the turn of the target and then a new user
    message with its pending reply; an accepted removal cuts its branch before the target; the
    lineages of all other branches stay; and a rejected call changes nothing. -/
theorem actions_of_reachable (h : Reachable (step X) Store.empty store) :
    (∀ uuid catalog sourceBranchId expectedSourceHead targetMessageId action branch user assistant
        generation now store',
      (Operation.appendMessageGenerationAction catalog sourceBranchId expectedSourceHead
        targetMessageId action branch user assistant generation now).call X uuid store =
          (.ok (), store') →
      (∀ old ∈ store.branches.rows, old.id ≠ branch.id ∧
        listBranchMessages old.id store' = listBranchMessages old.id store) ∧
      (user.role = .user ∧ user.status = .complete ∧
        assistant.role = .assistant ∧ assistant.status = .pending ∧
        ∀ row ∈ store.messages.rows, row.id ≠ user.id ∧ row.id ≠ assistant.id) ∧
      ∃ before original turn after,
        listBranchMessages sourceBranchId store = before ++ turn ++ after ∧
        IsTurn action targetMessageId original turn ∧
        listBranchMessages branch.id store' = before ++ [user, assistant] ∧
        (action = .regenerateAssistant → user.content = original.content)) ∧
    (∀ uuid conversationId branchId expectedHead targetMessageId now store',
      (Operation.removeMessageFromBranch conversationId branchId expectedHead targetMessageId
        now).call X uuid store = (.ok (), store') →
      (∃ before target after, listBranchMessages branchId store = before ++ target :: after ∧
        target.id = targetMessageId ∧ listBranchMessages branchId store' = before) ∧
      ∀ other ∈ store.branches.rows, other.id ≠ branchId →
        listBranchMessages other.id store' = listBranchMessages other.id store) ∧
    ∀ uuid (operation : Operation) error store',
      operation.call X uuid store = (.error error, store') → store' = store := by
  have hs := sound_of_reachable h
  refine ⟨?_, ?_, ?_⟩
  · intro uuid catalog sourceBranchId expectedSourceHead targetMessageId action branch user
      assistant generation now store' hcall
    exact hs.append (call_ok.mp hcall)
  · intro uuid conversationId branchId expectedHead targetMessageId now store' hcall
    obtain ⟨branch, hrun⟩ := exists_of_map_fst (call_ok.mp hcall)
    exact hs.remove hrun
  · intro uuid operation error store' hcall
    exact call_eq_error hcall

/-- The first turn of the conversation regenerated, and the result cut before its reply. -/
def regenerated : List Operation :=
  twoTurns.take 3 ++
    [.appendMessageGenerationAction plainCatalog "b" (some "a") "a" .regenerateAssistant
      { id := "f", conversationId := "c", title := none, forkMessageId := none,
        headMessageId := some "d", createdAt := "t", updatedAt := "t" }
      (plainUser "v" none) (plainReply "d" "v" "h") (plainGeneration "h" "f" "v" "d") "t"]

theorem actions_of_reachable_regenerated :
    (listBranchMessages "f" (runAll plainExternals Store.empty regenerated)).map Message.id =
        ["v", "d"] ∧
      (listBranchMessages "b" (runAll plainExternals Store.empty regenerated)).map Message.id =
        ["u", "a"] ∧
      ∀ uuid (operation : Operation) error store',
        operation.call plainExternals uuid (runAll plainExternals Store.empty regenerated) =
          (.error error, store') →
        store' = runAll plainExternals Store.empty regenerated :=
  ⟨by decide, by decide, (actions_of_reachable (X := plainExternals)
    (reachable_runAll ⟨[], .nil Store.empty⟩)).2.2⟩

end LorePia.Conversations
