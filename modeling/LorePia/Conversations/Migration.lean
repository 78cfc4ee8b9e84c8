import LorePia.Conversations.Legacy
import LorePia.Conversations.Recovering
import LorePia.Conversations.Runs
import Mathlib.Data.List.Dedup

namespace LorePia.Conversations

open Lib List Function LegacyStore Table
open DiscoveryStore (SqliteError SqliteJson)

/-!
# The conversation store — the branch migration

What the acceptance check says about a database of schema two (`Accepted`), what the migration
makes of one it accepts (`Migrated`), and what the recovery that follows leaves of it.

* `LegacyStore.linked_line` — `LAG(id)` over the timeline links it to one line;
* `Accepted.threads` — the migrated store is a store of threads;
* `Accepted.migrated` — no message is lost, changed or moved, and every reply has its generation;
* `branch_migration_preserves` — the migration, and the recovery after it.
-/

variable {uuid : String} {legacy : LegacyStore} {row : LegacyMessage} {rows : List LegacyMessage}
  {text : String}

/-! ### The acceptance check -/

/-- What the acceptance check says. -/
structure Accepted (legacy : LegacyStore) : Prop where
  role : ∀ row ∈ legacy.messages.rows, ∃ role, parseMessageRole row.role = some role
  status : ∀ row ∈ legacy.messages.rows, ∃ status, parseMessageStatus row.status = some status
  owner : ∀ row ∈ legacy.messages.rows, row.role = "assistant" ↔ row.generationId.isSome = true
  complete : ∀ row ∈ legacy.messages.rows, row.role ≠ "assistant" → row.status = "complete"
  reply : ∀ row ∈ legacy.messages.rows, row.role = "assistant" →
    ∃ user ∈ legacy.messages.rows, row.parentId = some user.id ∧
      user.conversationId = row.conversationId ∧ user.role = "user"
  generationIds : (legacy.messages.rows.filterMap LegacyMessage.generationId).Nodup
  parent : ∀ row ∈ legacy.messages.rows, ∀ id, row.parentId = some id →
    legacy.expectedParentId row = some id

theorem parseMessageRole_eq_assistant :
    parseMessageRole text = some .assistant ↔ text = "assistant" := by
  unfold parseMessageRole
  split <;> simp_all

theorem exists_role (h : ["system", "user", "assistant"].contains text = true) :
    ∃ role, parseMessageRole text = some role := by
  simp only [contains_eq_mem, mem_cons, not_mem_nil, or_false, decide_eq_true_eq] at h
  rcases h with rfl | rfl | rfl
  · exact ⟨.system, rfl⟩
  · exact ⟨.user, rfl⟩
  · exact ⟨.assistant, rfl⟩

theorem exists_status (h : ["pending", "complete", "cancelled", "failed"].contains text = true) :
    ∃ status, parseMessageStatus text = some status := by
  simp only [contains_eq_mem, mem_cons, not_mem_nil, or_false, decide_eq_true_eq] at h
  rcases h with rfl | rfl | rfl | rfl
  · exact ⟨.pending, rfl⟩
  · exact ⟨.complete, rfl⟩
  · exact ⟨.cancelled, rfl⟩
  · exact ⟨.failed, rfl⟩

theorem userParent_eq_some (h : legacy.userParent row = some user) :
    user ∈ legacy.messages.rows ∧ row.parentId = some user.id ∧
      user.conversationId = row.conversationId ∧ user.role = "user" := by
  rw [userParent, Option.filter_eq_some_iff, Option.bind_eq_some_iff,
    Bool.and_eq_true, beq_iff_eq, beq_iff_eq] at h
  obtain ⟨⟨id, hid, hfind⟩, hconv, hrole⟩ := h
  obtain ⟨hmem, rfl⟩ := find?_eq_some.mp hfind
  exact ⟨hmem, hid, hconv, hrole⟩

/-- What the first count leaves. -/
structure Valid (legacy : LegacyStore) (row : LegacyMessage) : Prop where
  role : ["system", "user", "assistant"].contains row.role = true
  status : ["pending", "complete", "cancelled", "failed"].contains row.status = true
  owner : row.role = "assistant" ↔ row.generationId.isSome = true
  reply : row.role = "assistant" → (legacy.userParent row).isSome = true
  complete : row.role ≠ "assistant" → row.status = "complete"

theorem valid_of_not_invalid (h : legacy.isInvalid row = false) : Valid legacy row := by
  simp only [isInvalid, Bool.or_eq_false_iff, Bool.not_eq_false',
    Bool.and_eq_false_imp, beq_iff_eq, bne_iff_ne, bne_eq_false_iff_eq] at h
  obtain ⟨⟨⟨⟨⟨⟨hrole, hstat⟩, hgen⟩, -⟩, hpar⟩, howned⟩, hcompl⟩ := h
  refine ⟨hrole, hstat, ⟨fun hasst => ?_, fun hsome => ?_⟩, fun hasst => ?_, hcompl⟩
  · simpa using hgen hasst
  · by_contra hoth
    rw [howned hoth] at hsome
    cases hsome
  · simpa using hpar hasst

theorem nodup_of_duplicateGenerationIds (h : legacy.duplicateGenerationIds.length = 0) :
    (legacy.messages.rows.filterMap LegacyMessage.generationId).Nodup := by
  rw [length_eq_zero_iff] at h
  rw [nodup_iff_count_le_one]
  intro id
  by_contra hcount
  rw [not_le] at hcount
  have hmem : id ∈ legacy.duplicateGenerationIds :=
    mem_filter.mpr ⟨mem_dedup.mpr (count_pos_iff.mp (by omega)),
      decide_eq_true hcount⟩
  rw [h] at hmem
  cases hmem

/-- **Acceptance.** -/
theorem accepted_of_validate (h : validateLegacyMessagesForBranchMigration uuid legacy = .ok ()) :
    Accepted legacy := by
  obtain ⟨hinvalid, hduplicate, h⟩ := guards₂ h
  have hinconsistent := require_ok.mp h
  rw [countP_eq_zero] at hinvalid hinconsistent
  have hval : ∀ row ∈ legacy.messages.rows, Valid legacy row := fun row hrow =>
    valid_of_not_invalid (by simpa using hinvalid row hrow)
  refine {
    role := fun row hrow => exists_role (hval row hrow).role
    status := fun row hrow => exists_status (hval row hrow).status
    owner := fun row hrow => (hval row hrow).owner
    complete := fun row hrow => (hval row hrow).complete
    reply := fun row hrow hasst => ?_
    generationIds := nodup_of_duplicateGenerationIds hduplicate
    parent := fun row hrow id hid => ?_ }
  · obtain ⟨user, huser⟩ := Option.isSome_iff_exists.mp ((hval row hrow).reply hasst)
    exact ⟨user, userParent_eq_some huser⟩
  · have hconsistent := hinconsistent row hrow
    rw [LegacyStore.isInconsistent, hid, Option.isSome_some, Bool.true_and, bne_iff_ne,
      not_not] at hconsistent
    exact hconsistent.symm

/-! ### The timeline -/

section Timeline

variable {timeline before after : List LegacyMessage}

/-- `LAG(id)` at a row is the row before it. -/
theorem lag_append (h : row.id ∉ before.map LegacyMessage.id) :
    lag row.id previous (before ++ row :: after) =
      (before.getLast?.map LegacyMessage.id).or previous := by
  induction before generalizing previous with
  | nil => exact if_pos rfl
  | cons first rest ih =>
    rw [map_cons, mem_cons, not_or] at h
    rw [cons_append, lag, if_neg fun hsame => h.1 hsame.symm, ih h.2]
    cases hrest : rest.getLast? with
    | none => simp [getLast?_cons, hrest]
    | some last => simp [getLast?_cons, hrest]

theorem timeline_perm : (legacy.timeline conversationId).Perm
    (legacy.messages.rows.filter fun row => row.conversationId == conversationId) :=
  perm_insertionSort _ _

theorem mem_timeline : row ∈ legacy.timeline conversationId ↔
    row ∈ legacy.messages.rows ∧ row.conversationId = conversationId := by
  rw [timeline_perm.mem_iff, mem_filter, beq_iff_eq]

theorem nodup_timeline_ids (legacy : LegacyStore) (conversationId : String) :
    ((legacy.timeline conversationId).map LegacyMessage.id).Nodup := by
  rw [(timeline_perm.map LegacyMessage.id).nodup_iff]
  exact legacy.messages.unique.sublist (filter_sublist.map _)

/-- The row before a row of the timeline is its parent. -/
theorem expectedParentId_eq (h : legacy.timeline conversationId = before ++ row :: after) :
    legacy.expectedParentId row = before.getLast?.map LegacyMessage.id := by
  have hconv : row.conversationId = conversationId :=
    (mem_timeline.mp (h ▸ mem_append_right before mem_cons_self)).2
  have hnodup := nodup_timeline_ids legacy conversationId
  rw [h, map_append, map_cons, nodup_append] at hnodup
  have hbef : row.id ∉ before.map LegacyMessage.id := fun hmem =>
    hnodup.2.2 _ hmem _ mem_cons_self rfl
  rw [expectedParentId, hconv, h, lag_append hbef, Option.or_none]

end Timeline

/-! ### Messages -/

/-- A migrated message carries the old one: its columns are the old ones, and so is its parent
    link, if there was one. -/
structure Carries (old : LegacyMessage) (row : Message) : Prop where
  id : row.id = old.id
  conversationId : row.conversationId = old.conversationId
  role : parseMessageRole old.role = some row.role
  content : row.content = old.content
  status : parseMessageStatus old.status = some row.status
  generationId : row.generationId = old.generationId
  createdAt : row.createdAt = old.createdAt
  parentId : ∀ id, old.parentId = some id → row.parentId = some id

theorem migrateMessage_eq_some (h : legacy.migrateMessage row = some new) :
    ∃ role status, parseMessageRole row.role = some role ∧
      parseMessageStatus row.status = some status ∧
      new = { id := row.id
              conversationId := row.conversationId
              parentId := legacy.expectedParentId row
              role
              content := row.content
              status
              generationId := row.generationId
              createdAt := row.createdAt } := by
  obtain ⟨role, hrole, h⟩ := Option.bind_eq_some_iff.mp h
  obtain ⟨status, hstat, h⟩ := Option.bind_eq_some_iff.mp h
  exact ⟨role, status, hrole, hstat, (Option.some.inj h).symm⟩

theorem Accepted.carries (h : Accepted legacy) (hrow : row ∈ legacy.messages.rows) (hnew : legacy.migrateMessage row = some new) : Carries row new := by
  obtain ⟨role, status, hrole, hstat, rfl⟩ := migrateMessage_eq_some hnew
  exact ⟨rfl, rfl, hrole, rfl, hstat, rfl, rfl, fun id hid => h.parent row hrow id hid⟩

theorem Accepted.exists_migrateMessage (h : Accepted legacy) (hrow : row ∈ legacy.messages.rows) :
    ∃ new, legacy.migrateMessage row = some new := by
  obtain ⟨role, hrole⟩ := h.role row hrow
  obtain ⟨status, hstat⟩ := h.status row hrow
  rw [migrateMessage, hrole, hstat]
  exact ⟨_, rfl⟩

/-- The migrated line of a conversation, newest first. -/
def LegacyStore.line (legacy : LegacyStore) (conversationId : String) : List Message :=
  ((legacy.timeline conversationId).filterMap legacy.migrateMessage).reverse

theorem Accepted.forall₂_carries (h : Accepted legacy)
    (hrows : ∀ row ∈ rows, row ∈ legacy.messages.rows) :
    List.Forall₂ Carries rows (rows.filterMap legacy.migrateMessage) := by
  induction rows with
  | nil => exact .nil
  | cons row rest ih =>
    obtain ⟨new, hnew⟩ := h.exists_migrateMessage (hrows row mem_cons_self)
    rw [filterMap_cons_some hnew]
    exact .cons (h.carries (hrows row mem_cons_self) hnew)
      (ih fun other hoth => hrows other (mem_cons_of_mem row hoth))

/-- Columns that every message carries over are carried over by lists. -/
theorem map_of_carries {β : Type} {old : LegacyMessage → β} {new : Message → β}
    (h : List.Forall₂ Carries rows rows')
    (hcolumn : ∀ row row', Carries row row' → new row' = old row) :
    rows'.map new = rows.map old := by
  induction h with
  | nil => rfl
  | cons hrow _ ih => rw [map_cons, map_cons, hcolumn _ _ hrow, ih]

theorem Accepted.map_id (h : Accepted legacy) (hrows : ∀ row ∈ rows, row ∈ legacy.messages.rows) :
    (rows.filterMap legacy.migrateMessage).map Message.id = rows.map LegacyMessage.id :=
  map_of_carries (h.forall₂_carries hrows) fun _ _ hcarr => hcarr.id

/-- **Line.** The migration links the messages of a timeline to one line. -/
theorem Accepted.linked_line (h : Accepted legacy) (conversationId : String) :
    Linked (legacy.line conversationId) := by
  -- every beginning of the timeline is linked
  have hlinked : ∀ before after, legacy.timeline conversationId = before ++ after →
      Linked (before.filterMap legacy.migrateMessage).reverse := by
    intro before
    induction before using List.reverseRecOn with
    | nil => exact fun _ _ => trivial
    | append_singleton before row ih =>
      intro after hsplit
      rw [append_assoc, singleton_append] at hsplit
      have hmem : ∀ other ∈ before ++ row :: after, other ∈ legacy.messages.rows :=
        fun other hoth => (mem_timeline.mp (hsplit ▸ hoth)).1
      obtain ⟨new, hnew⟩ :=
        h.exists_migrateMessage (hmem row (mem_append_right before mem_cons_self))
      have hbef : ∀ other ∈ before, other ∈ legacy.messages.rows := fun other hoth =>
        hmem other (mem_append_left _ hoth)
      have hids := h.map_id hbef
      rw [filterMap_append, filterMap_cons_some hnew, filterMap_nil,
        reverse_append, reverse_singleton, singleton_append]
      refine ⟨?_, ih (row :: after) hsplit⟩
      obtain ⟨role, status, _, _, rfl⟩ := migrateMessage_eq_some hnew
      show legacy.expectedParentId row = _
      rw [expectedParentId_eq hsplit, head?_reverse, ← getLast?_map, ← getLast?_map, hids]
  exact hlinked _ [] (append_nil _).symm

/-! ### The migrated messages -/

variable {messages : Table String Message Message.id} {store : Store}

theorem Accepted.migrateMessages_ok (h : Accepted legacy) :
    ∃ messages, legacy.migrateMessages = .ok messages ∧
      messages.rows = legacy.messages.rows.filterMap legacy.migrateMessage := by
  have hall : (legacy.messages.rows.all fun row => (legacy.migrateMessage row).isSome) = true := by
    rw [all_eq_true]
    intro row hrow
    exact Option.isSome_iff_exists.mpr (h.exists_migrateMessage hrow)
  have huniq : ((legacy.messages.rows.filterMap legacy.migrateMessage).map Message.id).Nodup := by
    rw [h.map_id fun _ hrow => hrow]
    exact legacy.messages.unique
  refine ⟨⟨_, huniq⟩, ?_, rfl⟩
  rw [migrateMessages, require_true hall, ofRows?_eq_some huniq]
  rfl

/-- The messages of the migration, from the old ones. -/
def MigratedRows (legacy : LegacyStore) (messages : Table String Message Message.id) : Prop :=
  messages.rows = legacy.messages.rows.filterMap legacy.migrateMessage

theorem MigratedRows.mem_line (hrows : MigratedRows legacy messages) : new ∈ legacy.line conversationId ↔
      new ∈ messages.rows ∧ new.conversationId = conversationId := by
  rw [line, mem_reverse, mem_filterMap, hrows, mem_filterMap]
  have hkeep : ∀ {row new}, legacy.migrateMessage row = some new →
      new.conversationId = row.conversationId := by
    intro row new hnew
    obtain ⟨_, _, _, _, rfl⟩ := migrateMessage_eq_some hnew
    rfl
  constructor
  · rintro ⟨row, hrow, hnew⟩
    obtain ⟨hmem, hconv⟩ := mem_timeline.mp hrow
    exact ⟨⟨row, hmem, hnew⟩, (hkeep hnew).trans hconv⟩
  · rintro ⟨⟨row, hrow, hnew⟩, hconv⟩
    exact ⟨row, mem_timeline.mpr ⟨hrow, (hkeep hnew).symm.trans hconv⟩, hnew⟩

theorem Accepted.nodup_line_ids (h : Accepted legacy) (conversationId : String) :
    ((legacy.line conversationId).map Message.id).Nodup := by
  rw [LegacyStore.line, map_reverse, nodup_reverse,
    h.map_id fun row hrow => (mem_timeline.mp hrow).1]
  exact nodup_timeline_ids legacy conversationId

/-! ### Branches -/

/-- The leaf of a line is its newest message. -/
theorem Accepted.lastLeaf_eq (h : Accepted legacy) (hrows : MigratedRows legacy messages)
    (conversationId : String) :
    lastLeaf messages conversationId = (legacy.line conversationId).head? := by
  have hleaf : ∀ row, row ∈ messages.rows.filter (fun row =>
      row.conversationId == conversationId && isLeaf messages row) ↔
        (legacy.line conversationId).head? = some row := by
    intro row
    rw [mem_filter, Bool.and_eq_true, beq_iff_eq, isLeaf, all_eq_true, ← and_assoc,
      ← hrows.mem_line]
    constructor
    · rintro ⟨hrow, hleaf⟩
      by_contra hhead
      obtain ⟨child, hchild, hpar⟩ := (h.linked_line conversationId).exists_child hrow hhead
      obtain ⟨hmem, hin⟩ := hrows.mem_line.mp hchild
      have hnot := hleaf child hmem
      rw [hin, (hrows.mem_line.mp hrow).2, hpar] at hnot
      simp at hnot
    · intro hhead
      have hrow := mem_of_mem_head? hhead
      refine ⟨hrow, fun child hchild => ?_⟩
      rw [Bool.or_eq_true, bne_iff_ne, bne_iff_ne, or_iff_not_imp_left, not_not]
      intro hin
      have hchildMem := hrows.mem_line.mpr ⟨hchild, hin.trans (hrows.mem_line.mp hrow).2⟩
      obtain ⟨rest, hrest⟩ := head?_eq_some_iff.mp hhead
      have hlinked := h.linked_line conversationId
      have hnodup := h.nodup_line_ids conversationId
      rw [hrest] at hlinked hnodup hchildMem
      exact hlinked.parentId_ne_head hnodup hchildMem
  have hnodup : (messages.rows.filter fun row =>
      row.conversationId == conversationId && isLeaf messages row).Nodup :=
    (List.Nodup.of_map _ messages.unique).filter _
  unfold lastLeaf
  generalize messages.rows.filter (fun row =>
    row.conversationId == conversationId && isLeaf messages row) = leaves at hleaf hnodup ⊢
  cases hline : (legacy.line conversationId).head? with
  | none =>
    have hnone : leaves = [] := eq_nil_iff_forall_not_mem.mpr fun row hrow => by
      rw [hleaf, hline] at hrow
      cases hrow
    rw [hnone]
    rfl
  | some head =>
    have hone : leaves.Perm [head] := by
      rw [perm_ext_iff_of_nodup hnodup (nodup_singleton head)]
      intro row
      rw [hleaf, hline, mem_singleton, Option.some.injEq, eq_comm]
    rw [perm_singleton.mp hone]
    rfl

/-! ### The migrated store -/

/-- The rows that the statements of the migration write. -/
structure FromLegacy (legacy : LegacyStore) (store : Store) : Prop where
  conversations : store.conversations = legacy.conversations
  messages : MigratedRows legacy store.messages
  branches : store.branches.rows = legacy.conversations.rows.map (migrateBranch store.messages)
  states : store.states.rows = legacy.conversations.rows.map migrateState
  generations : store.generations.rows =
    store.messages.rows.filterMap (migrateGeneration store.messages)

variable {conversation : Conversation} {new : Message} {generation : GenerationRecord}

theorem FromLegacy.mem_branches (hs : FromLegacy legacy store) :
    branch ∈ store.branches.rows ↔
      ∃ conversation ∈ legacy.conversations.rows, migrateBranch store.messages conversation = branch := by
  rw [hs.branches, mem_map]

/-- Every migrated message comes from an old one. -/
theorem Accepted.exists_old (h : Accepted legacy) (hs : FromLegacy legacy store)
    (hnew : new ∈ store.messages.rows) : ∃ old ∈ legacy.messages.rows, Carries old new := by
  rw [hs.messages, mem_filterMap] at hnew
  obtain ⟨old, hold, hmigr⟩ := hnew
  exact ⟨old, hold, h.carries hold hmigr⟩

theorem Accepted.exists_new (h : Accepted legacy) (hs : FromLegacy legacy store)
    (hrow : row ∈ legacy.messages.rows) : ∃ new ∈ store.messages.rows, Carries row new := by
  obtain ⟨new, hmigr⟩ := h.exists_migrateMessage hrow
  refine ⟨new, ?_, h.carries hrow hmigr⟩
  rw [hs.messages, mem_filterMap]
  exact ⟨row, hrow, hmigr⟩

theorem Carries.role_assistant (h : Carries row new) :
    new.role = .assistant ↔ row.role = "assistant" := by
  rw [← parseMessageRole_eq_assistant, h.role, Option.some.injEq]

/-- **Reply.** Every migrated reply hangs below a user message of its conversation. -/
theorem Accepted.exists_user (h : Accepted legacy) (hs : FromLegacy legacy store)
    (hnew : new ∈ store.messages.rows) (hrole : new.role = .assistant) :
    ∃ user ∈ store.messages.rows, new.parentId = some user.id ∧
      user.conversationId = new.conversationId ∧ user.role = .user := by
  obtain ⟨old, hold, hcarr⟩ := h.exists_old hs hnew
  obtain ⟨oldUser, hmem, hpar, hconv, hrole'⟩ := h.reply old hold (hcarr.role_assistant.mp hrole)
  obtain ⟨user, huser, hcarrUser⟩ := h.exists_new hs hmem
  refine ⟨user, huser, ?_, ?_, ?_⟩
  · rw [hcarr.parentId _ hpar, hcarrUser.id]
  · rw [hcarrUser.conversationId, hconv, hcarr.conversationId]
  · have huserRole := hcarrUser.role
    rw [hrole'] at huserRole
    exact (Option.some.inj huserRole).symm

theorem Accepted.threaded (h : Accepted legacy) (hs : FromLegacy legacy store)
    (conversation : Conversation) : Threaded store (migrateBranch store.messages conversation)
      (legacy.line conversation.id) where
  linked := h.linked_line conversation.id
  nodup := .of_map _ (h.nodup_line_ids conversation.id)
  mem_iff _ := hs.messages.mem_line
  head := by
    show (lastLeaf store.messages conversation.id).map Message.id = _
    rw [h.lastLeaf_eq hs.messages]

/-- Every message is in a conversation, and so on the line of a branch. -/
theorem Accepted.exists_conversation (h : Accepted legacy) (hs : FromLegacy legacy store)
    (hnew : new ∈ store.messages.rows) :
    ∃ conversation ∈ legacy.conversations.rows, conversation.id = new.conversationId := by
  obtain ⟨old, hold, hcarr⟩ := h.exists_old hs hnew
  obtain ⟨conversation, hfind⟩ := Option.isSome_iff_exists.mp (legacy.owned old hold)
  obtain ⟨hmem, hid⟩ := find?_eq_some.mp hfind
  exact ⟨conversation, hmem, hid.trans hcarr.conversationId.symm⟩

/-! ### Generations -/

/-- The generation of a migrated reply, attached to the user message above the reply. -/
structure Generated (messages : Table String Message Message.id) (reply : Message)
    (generation : GenerationRecord) : Prop where
  role : reply.role = .assistant
  id : reply.generationId = some generation.id
  conversationId : generation.conversationId = reply.conversationId
  branchId : generation.branchId = migratedBranchId reply.conversationId
  assistantMessageId : generation.assistantMessageId = some reply.id
  status : generation.status = migrateStatus reply.status
  finishedAt : generation.finishedAt =
    if reply.status = .pending then none else some reply.createdAt
  providerRawSummary : generation.providerRawSummary = none
  unrouted : generation.modelRouteId = none ∧ generation.providerFamily = none ∧
    generation.opaqueReasoningState = []
  user : ∃ user ∈ messages.rows, reply.parentId = some user.id ∧
    user.conversationId = reply.conversationId ∧ user.role = .user ∧
    generation.userMessageId = user.id

theorem migrateGeneration_eq_some (h : migrateGeneration messages new = some generation) :
    Generated messages new generation := by
  have hrole : new.role = .assistant := by
    by_contra hrole
    rw [migrateGeneration, if_neg hrole] at h
    cases h
  rw [migrateGeneration, if_pos hrole] at h
  obtain ⟨id, hid, h⟩ := Option.bind_eq_some_iff.mp h
  obtain ⟨user, huser, h⟩ := Option.bind_eq_some_iff.mp h
  cases Option.some.inj h
  rw [Option.filter_eq_some_iff, Option.bind_eq_some_iff, Bool.and_eq_true, beq_iff_eq,
    beq_iff_eq] at huser
  obtain ⟨⟨parentId, hpar, hfind⟩, hconv, huserRole⟩ := huser
  obtain ⟨hmem, rfl⟩ := find?_eq_some.mp hfind
  exact ⟨hrole, hid, rfl, rfl, rfl, rfl, rfl, rfl, ⟨rfl, rfl, rfl⟩, user, hmem, hpar,
    hconv, huserRole, rfl⟩

/-- Every reply has a generation. -/
theorem Accepted.exists_generation (h : Accepted legacy) (hs : FromLegacy legacy store)
    (hnew : new ∈ store.messages.rows) (hrole : new.role = .assistant) :
    ∃ generation, migrateGeneration store.messages new = some generation := by
  obtain ⟨old, hold, hcarr⟩ := h.exists_old hs hnew
  obtain ⟨user, huser, hpar, hconv, huserRole⟩ := h.exists_user hs hnew hrole
  have hfind : store.messages.find? user.id = some user := find?_eq_some.mpr ⟨huser, rfl⟩
  have hgen := (h.owner old hold).mp (hcarr.role_assistant.mp hrole)
  rw [← hcarr.generationId] at hgen
  obtain ⟨generationId, hid⟩ := Option.isSome_iff_exists.mp hgen
  rw [migrateGeneration, if_pos hrole, hid, hpar, Option.bind_some, hfind,
    Option.filter_eq_some_iff.mpr ⟨rfl, by simp [hconv, huserRole]⟩]
  exact ⟨_, rfl⟩

theorem FromLegacy.mem_generations (hs : FromLegacy legacy store) :
    generation ∈ store.generations.rows ↔
      ∃ new ∈ store.messages.rows, migrateGeneration store.messages new = some generation := by
  rw [hs.generations, mem_filterMap]

/-- **Generations.** There is one row for every reply, in the order of the replies. -/
theorem Accepted.generations_eq (h : Accepted legacy) (hs : FromLegacy legacy store) :
    store.generations.rows.map GenerationRecord.assistantMessageId =
      (store.messages.rows.filter fun row => row.role == .assistant).map fun row => some row.id := by
  have hpart : ∀ part : List Message, (∀ row ∈ part, row ∈ store.messages.rows) →
      (part.filterMap (migrateGeneration store.messages)).map GenerationRecord.assistantMessageId =
        (part.filter fun row => row.role == .assistant).map fun row => some row.id := by
    intro part hrows
    induction part with
    | nil => rfl
    | cons row rest ih =>
      have hrest := ih fun other hoth => hrows other (mem_cons_of_mem row hoth)
      by_cases hrole : row.role = .assistant
      · obtain ⟨generation, hgen⟩ :=
          h.exists_generation hs (hrows row mem_cons_self) hrole
        have hreply := (migrateGeneration_eq_some hgen).assistantMessageId
        rw [filterMap_cons_some hgen, map_cons, hrest, hreply,
          filter_cons_of_pos (by simp [hrole]), map_cons]
      · have hnone : migrateGeneration store.messages row = none := by
          by_contra hsome
          obtain ⟨generation, hgen⟩ := Option.ne_none_iff_exists'.mp hsome
          exact hrole (migrateGeneration_eq_some hgen).role
        rw [filterMap_cons_none hnone, filter_cons_of_neg (by simp [hrole]), hrest]
  rw [hs.generations]
  exact hpart _ fun _ hrow => hrow

/-- Keys of what is kept are keys of what it is kept from. -/
theorem sublist_filterMap {α β γ : Type} {f : α → Option β} {key : α → Option γ} {k : β → γ}
    (h : ∀ a b, f a = some b → key a = some (k b)) (l : List α) :
    ((l.filterMap f).map k).Sublist (l.filterMap key) := by
  induction l with
  | nil => exact .refl _
  | cons a l ih =>
    cases hf : f a with
    | none =>
      rw [filterMap_cons_none hf, filterMap_cons]
      cases key a with
      | none => exact ih
      | some c => exact ih.cons c
    | some b =>
      rw [filterMap_cons_some hf, map_cons, filterMap_cons_some (h a b hf)]
      exact ih.cons_cons (k b)

/-! ### The constraints -/

theorem Accepted.generationIds_new (h : Accepted legacy) (hrows : MigratedRows legacy messages) :
    (messages.rows.filterMap Message.generationId).Nodup := by
  have hsame : messages.rows.map Message.generationId =
      legacy.messages.rows.map LegacyMessage.generationId := by
    rw [hrows]
    exact map_of_carries (h.forall₂_carries fun _ hrow => hrow) fun _ _ hcarr => hcarr.generationId
  have hids : messages.rows.filterMap Message.generationId =
      legacy.messages.rows.filterMap LegacyMessage.generationId := by
    rw [← Function.id_comp Message.generationId, ← filterMap_map, hsame, filterMap_map, id_comp]
  exact hids ▸ h.generationIds

theorem Accepted.assistantIds (h : Accepted legacy) (hs : FromLegacy legacy store) :
    (store.generations.rows.filterMap GenerationRecord.assistantMessageId).Nodup := by
  have hids : store.generations.rows.filterMap GenerationRecord.assistantMessageId =
      (store.messages.rows.filter fun row => row.role == .assistant).map Message.id := by
    rw [← id_comp GenerationRecord.assistantMessageId, ← filterMap_map,
      h.generations_eq hs, filterMap_map]
    exact congrFun filterMap_eq_map' _
  rw [hids]
  exact store.messages.unique.sublist (filter_sublist.map _)

theorem checks_of_migrateGeneration (h : migrateGeneration messages new = some generation) :
    generation.checks J = true := by
  have hgenerated := migrateGeneration_eq_some h
  rw [GenerationRecord.checks, hgenerated.status, hgenerated.finishedAt,
    hgenerated.providerRawSummary]
  cases new.status <;> rfl

/-- **Constraints.** The migrated rows satisfy the constraints of the new tables. -/
theorem Accepted.constrained (h : Accepted legacy) (hs : FromLegacy legacy store)
    (J : SqliteJson) : Constrained J store := by
  have hconv : ∀ {id : String}, (∃ conversation ∈ legacy.conversations.rows,
      conversation.id = id) → ∃ conversation ∈ store.conversations.rows, conversation.id = id :=
    fun hexists => hs.conversations ▸ hexists
  -- the row above a message of a line
  have habove : ∀ new ∈ store.messages.rows, ∀ id, new.parentId = some id →
      id ≠ new.id ∧ ∃ parent ∈ store.messages.rows, parent.id = id ∧
        parent.conversationId = new.conversationId := by
    intro new hnew id hid
    obtain ⟨conversation, _, hin⟩ := h.exists_conversation hs hnew
    have ht := h.threaded hs conversation
    obtain ⟨older, hsuf⟩ := exists_suffix ((ht.mem_iff new).mpr ⟨hnew, hin.symm⟩)
    rw [(ht.linked.of_suffix hsuf).1, Option.map_eq_some_iff] at hid
    obtain ⟨parent, hpar, rfl⟩ := hid
    have holder : parent ∈ older := mem_of_mem_head? hpar
    obtain ⟨hmem, hparIn⟩ := (ht.mem_iff parent).mp (hsuf.subset (mem_cons_of_mem new holder))
    refine ⟨fun hsame => ?_, parent, hmem, rfl, hparIn.trans hin⟩
    exact ht.not_mem_older hsuf (hsame ▸ mem_map_of_mem holder)
  have hbr : ∀ {id : String}, (∃ conversation ∈ legacy.conversations.rows,
      conversation.id = id) → ∃ branch ∈ store.branches.rows,
        branch.id = migratedBranchId id ∧ branch.conversationId = id := by
    rintro _ ⟨conversation, hmem, rfl⟩
    exact ⟨_, hs.mem_branches.mpr ⟨conversation, hmem, rfl⟩, rfl, rfl⟩
  refine {
    notOwnParent := fun new hnew hid => (habove new hnew _ hid).1 rfl
    status := fun new hnew => ?_
    generated := fun new hnew => ?_
    forkNonempty := fun branch hmem => ?_
    generationChecks := fun generation hmem => ?_
    generationIds := h.generationIds_new hs.messages
    assistantIds := h.assistantIds hs
    messageConversation := fun new hnew => hconv (h.exists_conversation hs hnew)
    parent := fun new hnew id hid => (habove new hnew id hid).2
    branchConversation := fun branch hmem => ?_
    fork := fun branch hmem id hid => ?_
    head := fun branch hmem id hid => ?_
    stateConversation := fun state hmem => ?_
    stateBranch := fun state hmem => ?_
    generationConversation := fun generation hmem => ?_
    generationBranch := fun generation hmem => ?_
    user := fun generation hmem => ?_
    assistant := fun generation hmem id hid => ?_ }
  · obtain ⟨old, hold, hcarr⟩ := h.exists_old hs hnew
    rw [hcarr.role_assistant, or_iff_not_imp_left]
    intro hrole
    have hstat := hcarr.status
    rw [h.complete old hold hrole] at hstat
    exact (Option.some.inj hstat).symm
  · obtain ⟨old, hold, hcarr⟩ := h.exists_old hs hnew
    rw [hcarr.role_assistant, hcarr.generationId]
    exact h.owner old hold
  · obtain ⟨conversation, _, rfl⟩ := hs.mem_branches.mp hmem
    simp [migrateBranch]
  · obtain ⟨new, _, hgen⟩ := hs.mem_generations.mp hmem
    exact checks_of_migrateGeneration hgen
  · obtain ⟨conversation, hold, rfl⟩ := hs.mem_branches.mp hmem
    exact hconv ⟨conversation, hold, rfl⟩
  · obtain ⟨conversation, _, rfl⟩ := hs.mem_branches.mp hmem
    cases hid
  · obtain ⟨conversation, _, rfl⟩ := hs.mem_branches.mp hmem
    have ht := h.threaded hs conversation
    rw [ht.head, Option.map_eq_some_iff] at hid
    obtain ⟨head, hhead, rfl⟩ := hid
    obtain ⟨hstore, hin⟩ := (ht.mem_iff head).mp (mem_of_mem_head? hhead)
    exact ⟨head, hstore, rfl, hin⟩
  · rw [hs.states, mem_map] at hmem
    obtain ⟨conversation, hold, rfl⟩ := hmem
    exact hconv ⟨conversation, hold, rfl⟩
  · rw [hs.states, mem_map] at hmem
    obtain ⟨conversation, hold, rfl⟩ := hmem
    exact hbr ⟨conversation, hold, rfl⟩
  · obtain ⟨new, hnew, hgen⟩ := hs.mem_generations.mp hmem
    rw [(migrateGeneration_eq_some hgen).conversationId]
    exact hconv (h.exists_conversation hs hnew)
  · obtain ⟨new, hnew, hgen⟩ := hs.mem_generations.mp hmem
    have hgenerated := migrateGeneration_eq_some hgen
    rw [hgenerated.conversationId, hgenerated.branchId]
    exact hbr (h.exists_conversation hs hnew)
  · obtain ⟨new, _, hgen⟩ := hs.mem_generations.mp hmem
    obtain ⟨user, huser, _, _, _, hid⟩ := (migrateGeneration_eq_some hgen).user
    exact ⟨user, huser, hid.symm⟩
  · obtain ⟨new, hnew, hgen⟩ := hs.mem_generations.mp hmem
    rw [(migrateGeneration_eq_some hgen).assistantMessageId, Option.some.injEq] at hid
    exact ⟨new, hnew, hid⟩

/-- **Threads.** The migration leaves a store of threads. -/
theorem Accepted.threads (h : Accepted legacy) (hs : FromLegacy legacy store) (J : SqliteJson) :
    Threads J store := by
  refine {
    constrained := h.constrained hs J
    threaded := fun branch hmem => ?_
    covered := fun new hnew => ?_
    unforked := fun branch hmem => ?_
    replies := fun new hnew hrole => h.exists_user hs hnew hrole
    users := fun generation hmem => ?_
    unrouted := fun generation hmem => ?_ }
  · obtain ⟨conversation, _, rfl⟩ := hs.mem_branches.mp hmem
    exact ⟨_, h.threaded hs conversation⟩
  · obtain ⟨conversation, hmem, hin⟩ := h.exists_conversation hs hnew
    exact ⟨_, hs.mem_branches.mpr ⟨conversation, hmem, rfl⟩, hin⟩
  · obtain ⟨conversation, _, rfl⟩ := hs.mem_branches.mp hmem
    rfl
  · obtain ⟨new, _, hgen⟩ := hs.mem_generations.mp hmem
    obtain ⟨user, huser, _, _, hrole, hid⟩ := (migrateGeneration_eq_some hgen).user
    exact ⟨user, huser, hid.symm, hrole⟩
  · obtain ⟨new, _, hgen⟩ := hs.mem_generations.mp hmem
    exact (migrateGeneration_eq_some hgen).unrouted

/-! ### The migration -/

/-- What the migration makes of a conversation: a single branch, whose line carries every old
    message once, and whose head is the one message without a child. -/
structure MigratedConversation (legacy : LegacyStore) (store : Store)
    (conversation : Conversation) (branch : ConversationBranch) : Prop where
  single : (store.branches.rows.filter fun row => row.conversationId = conversation.id) = [branch]
  lineage : ∃ timeline : List LegacyMessage,
    timeline.Perm (legacy.messages.rows.filter fun row => row.conversationId == conversation.id) ∧
      List.Forall₂ Carries timeline (branchLineage branch.id store)
  head : ∀ id, branch.headMessageId = some id ↔ ∃ row ∈ store.messages.rows, row.id = id ∧
    row.conversationId = conversation.id ∧
      ∀ child ∈ store.messages.rows, child.conversationId = conversation.id →
        child.parentId ≠ some row.id
  empty : branch.headMessageId = none ↔
    ∀ row ∈ legacy.messages.rows, row.conversationId ≠ conversation.id

/-- What the migration makes of a database: its conversations, and a generation for each reply
    and no other, attached to the user message of the reply. -/
structure Migrated (legacy : LegacyStore) (store : Store) : Prop where
  conversations : store.conversations = legacy.conversations
  branches : ∀ conversation ∈ legacy.conversations.rows,
    ∃ branch, MigratedConversation legacy store conversation branch
  generations : store.generations.rows.map GenerationRecord.assistantMessageId =
    (store.messages.rows.filter fun row => row.role == .assistant).map fun row => some row.id
  generated : ∀ generation ∈ store.generations.rows, ∃ reply ∈ store.messages.rows,
    Generated store.messages reply generation

theorem Accepted.migratedConversation (h : Accepted legacy) (hs : FromLegacy legacy store)
    (hconv : conversation ∈ legacy.conversations.rows) :
    MigratedConversation legacy store conversation (migrateBranch store.messages conversation) := by
  have ht := h.threaded hs conversation
  have hmem : migrateBranch store.messages conversation ∈ store.branches.rows :=
    hs.mem_branches.mpr ⟨conversation, hconv, rfl⟩
  refine ⟨?_, ?_, fun id => ht.head_iff_leaf, ?_⟩
  · rw [hs.branches, filter_map]
    exact congrArg _ (filter_key hconv)
  · have hrows : ∀ row ∈ legacy.timeline conversation.id, row ∈ legacy.messages.rows :=
      fun row hrow => (mem_timeline.mp hrow).1
    have htimeline := h.forall₂_carries hrows
    refine ⟨(legacy.timeline conversation.id).reverse, (reverse_perm _).trans timeline_perm, ?_⟩
    rw [ht.branchLineage_eq hmem]
    exact forall₂_reverse_iff.mpr htimeline
  · rw [ht.head, Option.map_eq_none_iff, head?_eq_none_iff]
    constructor
    · intro hline row hrow hin
      obtain ⟨new, hnew, hcarr⟩ := h.exists_new hs hrow
      have hmemLine := (ht.mem_iff new).mpr ⟨hnew, hcarr.conversationId.trans hin⟩
      rw [hline] at hmemLine
      cases hmemLine
    · intro hnone
      refine eq_nil_iff_forall_not_mem.mpr fun new hnew => ?_
      obtain ⟨hstore, hin⟩ := (ht.mem_iff new).mp hnew
      obtain ⟨old, hold, hcarr⟩ := h.exists_old hs hstore
      exact hnone old hold (hcarr.conversationId.symm.trans hin)

theorem Accepted.migrated (h : Accepted legacy) (hs : FromLegacy legacy store) :
    Migrated legacy store where
  conversations := hs.conversations
  branches conversation hmem := ⟨_, h.migratedConversation hs hmem⟩
  generations := h.generations_eq hs
  generated generation hmem := by
    obtain ⟨new, hnew, hgen⟩ := hs.mem_generations.mp hmem
    exact ⟨new, hnew, migrateGeneration_eq_some hgen⟩

theorem migratedBranchId_injective : Function.Injective migratedBranchId := fun _ _ hsame =>
  (String.append_right_inj _).mp hsame

/-- Every statement of the migration succeeds. -/
theorem Accepted.migrate_ok (h : Accepted legacy) (J : SqliteJson) :
    ∃ store, migrateConversationBranches J legacy = .ok store ∧ FromLegacy legacy store := by
  obtain ⟨messages, hmsgs, hrows⟩ := h.migrateMessages_ok
  have hbrs : ((legacy.conversations.rows.map (migrateBranch messages)).map
      ConversationBranch.id).Nodup := by
    have hids : (legacy.conversations.rows.map (migrateBranch messages)).map
        ConversationBranch.id = (legacy.conversations.rows.map Conversation.id).map
          migratedBranchId := by
      rw [map_map, map_map]
      rfl
    rw [hids]
    exact legacy.conversations.unique.map migratedBranchId_injective
  have hstates : ((legacy.conversations.rows.map migrateState).map
      ConversationState.conversationId).Nodup := by
    rw [map_map]
    exact legacy.conversations.unique
  have hgens : ((messages.rows.filterMap (migrateGeneration messages)).map
      GenerationRecord.id).Nodup := by
    have hsublist : ((messages.rows.filterMap (migrateGeneration messages)).map
        GenerationRecord.id).Sublist (messages.rows.filterMap Message.generationId) :=
      sublist_filterMap (fun _ _ hgen => (migrateGeneration_eq_some hgen).id) _
    exact (h.generationIds_new hrows).sublist hsublist
  have hs : FromLegacy legacy
      { conversations := legacy.conversations
        messages
        branches := ⟨_, hbrs⟩
        states := ⟨_, hstates⟩
        generations := ⟨_, hgens⟩ } := ⟨rfl, hrows, rfl, rfl, rfl⟩
  refine ⟨_, ?_, hs⟩
  exact then_ok hmsgs (then_ok (okOr_ok.mpr (ofRows?_eq_some hbrs))
    (then_ok (okOr_ok.mpr (ofRows?_eq_some hstates)) (then_ok (okOr_ok.mpr (ofRows?_eq_some
    hgens)) (enforce_ok (h.constrained hs J)))))

/-- **Branch migration.** A database of schema two that the check accepts is migrated without a
    loss, and the recovery that follows ends every reply and takes the pending ones out of the
    lines, or cancels them. -/
theorem branch_migration_preserves (X : Externals) (uuid : String) (legacy : LegacyStore)
    (hacc : validateLegacyMessagesForBranchMigration uuid legacy = .ok ()) :
    ∃ store, migrateConversationBranches X.sqlite legacy = .ok store ∧ Migrated legacy store ∧
      ∀ catalog preservePartialGenerations recoveredAt, ∃ store',
        applyRecoveryTransaction X uuid catalog preservePartialGenerations recoveredAt store =
          .ok store' ∧ Recovered preservePartialGenerations store store' := by
  have h := accepted_of_validate hacc
  obtain ⟨store, hstore, hs⟩ := h.migrate_ok X.sqlite
  refine ⟨store, hstore, h.migrated hs, fun catalog preservePartialGenerations recoveredAt => ?_⟩
  exact (h.threads hs X.sqlite).recover catalog preservePartialGenerations recoveredAt

/-! ### A timeline with a reply that was cut off -/

def legacyRow (id : String) (parentId : Option String) (role : String) (status : String)
    (generationId : Option String) (createdAt : String) : LegacyMessage :=
  { id, conversationId := "c", parentId, role, content := "", status, generationId, createdAt }

/-- A greeting, a reply that is pending below the user's first message, and a second message
    without a parent link; beside them a conversation without messages. -/
def cutOffTimeline : LegacyStore where
  conversations := ⟨[⟨"c", "", "", "", ""⟩, ⟨"d", "", "", "", ""⟩], by decide⟩
  messages := ⟨[legacyRow "v" none "user" "complete" none "2",
    legacyRow "a" (some "u") "assistant" "pending" (some "g") "3",
    legacyRow "u" none "user" "complete" none "1",
    legacyRow "s" none "system" "complete" none "0"], by decide⟩
  owned := by decide

theorem branch_migration_preserves_cutOff :
    (migrateConversationBranches plainExternals.sqlite cutOffTimeline).toOption.map
        (fun store => (branchLineage (migratedBranchId "c") store).map Message.id) =
      some ["v", "a", "u", "s"] ∧
    ∃ store, migrateConversationBranches plainExternals.sqlite cutOffTimeline = .ok store ∧
      Migrated cutOffTimeline store ∧
      ∀ catalog preservePartialGenerations recoveredAt, ∃ store',
        applyRecoveryTransaction plainExternals "" catalog preservePartialGenerations recoveredAt
          store = .ok store' ∧ Recovered preservePartialGenerations store store' :=
  ⟨by decide, branch_migration_preserves plainExternals "" cutOffTimeline (by decide)⟩

end LorePia.Conversations
