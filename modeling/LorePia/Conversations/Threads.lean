import LorePia.Conversations.Constraints
import LorePia.Conversations.Endings

namespace LorePia.Conversations

open Lib List
open DiscoveryStore (SqliteJson)

/-!
# The conversation store — threads

A thread is a conversation whose messages all hang in one line: one branch, newest message
first, each message below the next (`Linked`, `Threaded`).  That is what the branch migration
makes of a timeline, and recovery turns threads into threads although they are not consistent
in the sense of `Consistent`: a pending reply of an older schema can have children.

* `Threaded.branchLineage_eq` — the lineage of the branch is the line;
* `Threaded.head_iff_leaf` — its head is the one message without a child;
* `Threaded.edit` — an update that leaves messages out and mends the links over them keeps the
  line.
-/

variable {store store' : Store} {branch : ConversationBranch} {lineage : List Message}
  {row : Message} {keep : Message → Bool} {older : List Message}

/-- Newest first, each message hangs below the next one, and the last below nothing. -/
def Linked : List Message → Prop
  | [] => True
  | row :: older => row.parentId = older.head?.map Message.id ∧ Linked older

/-- The messages of the branch's conversation hang in one line, below its head. -/
structure Threaded (store : Store) (branch : ConversationBranch) (lineage : List Message) :
    Prop where
  linked : Linked lineage
  nodup : lineage.Nodup
  mem_iff : ∀ row, row ∈ lineage ↔
    row ∈ store.messages.rows ∧ row.conversationId = branch.conversationId
  head : branch.headMessageId = lineage.head?.map Message.id

theorem Linked.of_suffix (h : Linked lineage) (hsuf : older <:+ lineage) :
    Linked older := by
  induction lineage with
  | nil =>
    rw [suffix_nil] at hsuf
    exact hsuf ▸ h
  | cons row rest ih =>
    rcases suffix_cons_iff.mp hsuf with rfl | hrest
    · exact h
    · exact ih h.2 hrest

section Lineages

section

variable (h : Threaded store branch lineage)
include h

theorem Threaded.messageIn (hrow : row ∈ lineage) :
    store.messageIn branch.conversationId row.id = some row := by
  obtain ⟨hmem, hconv⟩ := (h.mem_iff row).mp hrow
  exact messageIn_eq_some.mpr ⟨hmem, rfl, hconv⟩

/-- Identifiers are looked up to the head of a piece of the line. -/
theorem Threaded.messageIn_head (hsuf : older <:+ lineage) :
    (older.head?.map Message.id).bind (store.messageIn branch.conversationId) = older.head? := by
  cases older with
  | nil => rfl
  | cons row rest => exact h.messageIn (hsuf.subset mem_cons_self)

/-- The parent links run down the line. -/
theorem Threaded.chain (hsuf : older <:+ lineage) : Chain store.parentOf older.head? older := by
  induction older with
  | nil => exact .nil
  | cons row rest ih =>
    have hrest : rest <:+ lineage := (suffix_cons row rest).trans hsuf
    have hrow : row ∈ lineage := hsuf.subset mem_cons_self
    have hnext : store.parentOf row = rest.head? := by
      rw [Store.parentOf, (h.linked.of_suffix hsuf).1, ((h.mem_iff row).mp hrow).2]
      exact h.messageIn_head hrest
    have hchain := ih hrest
    rw [← hnext] at hchain
    exact hchain.cons

theorem Threaded.length_le :
    lineage.length ≤ store.messages.rows.length :=
  (h.nodup.subperm fun row hrow => ((h.mem_iff row).mp hrow).1).length_le

/-- **Lineage.** The lineage of a branch with a thread is the thread. -/
theorem Threaded.branchLineage_eq
    (hbr : branch ∈ store.branches.rows) : branchLineage branch.id store = lineage := by
  have hfind : store.branches.find? branch.id = some branch := Table.find?_eq_some.mpr ⟨hbr, rfl⟩
  have hhead : store.branchHead branch.id = lineage.head? := by
    rw [Store.branchHead, hfind, Option.bind_some, h.head]
    exact h.messageIn_head suffix_rfl
  rw [branchLineage, hhead]
  exact (h.chain suffix_rfl).ancestry_eq h.length_le

end

/-- Every message of a line but its first is the parent of another one. -/
theorem Linked.exists_child (h : Linked lineage) (hrow : row ∈ lineage)
    (hhead : lineage.head? ≠ some row) : ∃ child ∈ lineage, child.parentId = some row.id := by
  induction lineage with
  | nil => cases hrow
  | cons first rest ih =>
    rcases mem_cons.mp hrow with rfl | hrow
    · exact absurd rfl hhead
    · by_cases hnext : rest.head? = some row
      · refine ⟨first, mem_cons_self, ?_⟩
        rw [h.1, hnext]
        rfl
      · obtain ⟨child, hchild, hpar⟩ := ih h.2 hrow hnext
        exact ⟨child, mem_cons_of_mem first hchild, hpar⟩

/-- The first message of a line is no parent in it. -/
theorem Linked.parentId_ne_head {first : Message} (h : Linked (first :: rest))
    (hnodup : ((first :: rest).map Message.id).Nodup) (hchild : child ∈ first :: rest) :
    child.parentId ≠ some first.id := by
  -- a parent is further down the line
  have hbelow : ∀ {line : List Message} {id : String}, Linked line → child ∈ line →
      child.parentId = some id → id ∈ line.tail.map Message.id := by
    intro line id hline
    induction line with
    | nil => exact fun hmem => by cases hmem
    | cons newest older ih =>
      intro hmem hid
      rcases mem_cons.mp hmem with rfl | hmem
      · rw [hline.1, Option.map_eq_some_iff] at hid
        obtain ⟨parent, hpar, rfl⟩ := hid
        exact mem_map_of_mem (mem_of_mem_head? hpar)
      · exact mem_of_mem_tail (map_tail ▸ ih hline.2 hmem hid)
  intro hid
  rw [map_cons, nodup_cons] at hnodup
  exact hnodup.1 (hbelow h hchild hid)

theorem Threaded.nodup_ids (h : Threaded store branch lineage) :
    (lineage.map Message.id).Nodup := by
  refine h.nodup.map_on fun a ha b hb hab => ?_
  exact Table.eq_of_key ((h.mem_iff a).mp ha).1 ((h.mem_iff b).mp hb).1 hab

/-- **Head.** The head of the branch is the one message of the conversation without a child. -/
theorem Threaded.head_iff_leaf (h : Threaded store branch lineage) {id : String} :
    branch.headMessageId = some id ↔ ∃ row ∈ store.messages.rows, row.id = id ∧
      row.conversationId = branch.conversationId ∧
      ∀ child ∈ store.messages.rows, child.conversationId = branch.conversationId →
        child.parentId ≠ some row.id := by
  rw [h.head, Option.map_eq_some_iff]
  constructor
  · rintro ⟨row, hrow, rfl⟩
    have hmem := (h.mem_iff row).mp (mem_of_mem_head? hrow)
    refine ⟨row, hmem.1, rfl, hmem.2, fun child hchild hconv => ?_⟩
    have hchildMem := (h.mem_iff child).mpr ⟨hchild, hconv⟩
    cases hlin : lineage with
    | nil =>
      rw [hlin] at hrow
      cases hrow
    | cons first rest =>
      rw [hlin] at hrow hchildMem
      cases hrow
      exact (hlin ▸ h.linked).parentId_ne_head (hlin ▸ h.nodup_ids) hchildMem
  · rintro ⟨row, hrow, rfl, hconv, hleaf⟩
    refine ⟨row, ?_, rfl⟩
    by_contra hhead
    obtain ⟨child, hchild, hpar⟩ := h.linked.exists_child ((h.mem_iff row).mpr ⟨hrow, hconv⟩) hhead
    obtain ⟨hmem, hchildConv⟩ := (h.mem_iff child).mp hchild
    exact hleaf child hmem hchildConv hpar

/-- A message of a line splits it into the newer and the older ones. -/
theorem exists_suffix (hrow : row ∈ lineage) : ∃ older, row :: older <:+ lineage := by
  obtain ⟨newer, older, hsplit⟩ := append_of_mem hrow
  exact ⟨older, newer, hsplit.symm⟩

theorem Threaded.not_mem_older (h : Threaded store branch lineage)
    (hsuf : row :: older <:+ lineage) : row.id ∉ older.map Message.id := by
  have hnodup : ((row :: older).map Message.id).Nodup := h.nodup_ids.sublist (hsuf.sublist.map _)
  rw [map_cons, nodup_cons] at hnodup
  exact hnodup.1

/-- **Mending.** `f` keeps the identifiers and mends the parent links with `skip`, which leads
    over the messages that are not kept. -/
theorem Linked.mend
    (skip : Option String → Option String) (h : Linked lineage) (hid : ∀ row, (f row).id = row.id)
    (hpar : ∀ row ∈ lineage, keep row = true → (f row).parentId = skip row.parentId)
    (hskip : ∀ older, older <:+ lineage →
      skip (older.head?.map Message.id) = (older.filter keep).head?.map Message.id) :
    Linked ((lineage.filter keep).map f) := by
  induction lineage with
  | nil => exact trivial
  | cons row older ih =>
    have holder : Linked ((older.filter keep).map f) :=
      ih h.2 (fun row hrow => hpar row (mem_cons_of_mem _ hrow))
        fun rest hrest => hskip rest (hrest.trans (suffix_cons row older))
    by_cases hkeep : keep row = true
    · rw [filter_cons_of_pos hkeep, map_cons]
      refine ⟨?_, holder⟩
      rw [hpar row mem_cons_self hkeep, h.1, hskip older (suffix_cons row older),
        head?_map, Option.map_map]
      congr 1
      funext row
      exact (hid row).symm
    · rw [filter_cons_of_neg hkeep]
      exact holder

/-- **Mending**, of a branch and its messages. -/
theorem Threaded.edit (skip : Option String → Option String)
    (h : Threaded store branch lineage)
    (hrows : ∀ row', row' ∈ store'.messages.rows ↔
      ∃ row ∈ store.messages.rows, keep row = true ∧ f row = row')
    (hid : ∀ row, (f row).id = row.id) (hconv : ∀ row, (f row).conversationId = row.conversationId)
    (hpar : ∀ row ∈ lineage, keep row = true → (f row).parentId = skip row.parentId)
    (hskip : ∀ older, older <:+ lineage →
      skip (older.head?.map Message.id) = (older.filter keep).head?.map Message.id)
    (hhead : branch'.headMessageId = skip branch.headMessageId)
    (hbr : branch'.conversationId = branch.conversationId) :
    Threaded store' branch' ((lineage.filter keep).map f) where
  linked := h.linked.mend skip hid hpar hskip
  nodup := by
    have hids : ((lineage.filter keep).map Message.id).Nodup :=
      h.nodup_ids.sublist (filter_sublist.map _)
    have hsame : ((lineage.filter keep).map f).map Message.id =
        (lineage.filter keep).map Message.id := by
      rw [map_map]
      exact map_congr_left fun row _ => hid row
    exact .of_map Message.id (hsame ▸ hids)
  mem_iff := by
    intro row'
    rw [mem_map, hrows]
    constructor
    · rintro ⟨row, hrow, rfl⟩
      obtain ⟨hmem, hkeep⟩ := mem_filter.mp hrow
      obtain ⟨hstore, hin⟩ := (h.mem_iff row).mp hmem
      exact ⟨⟨row, hstore, hkeep, rfl⟩, by rw [hconv, hbr, hin]⟩
    · rintro ⟨⟨row, hstore, hkeep, rfl⟩, hin⟩
      rw [hconv, hbr] at hin
      exact ⟨row, mem_filter.mpr ⟨(h.mem_iff row).mpr ⟨hstore, hin⟩, hkeep⟩, rfl⟩
  head := by
    rw [hhead, h.head, hskip lineage suffix_rfl, head?_map, Option.map_map]
    congr 1
    funext row
    exact (hid row).symm

end Lineages

/-! ### Recovery -/

/-- A store of threads: what the branch migration leaves and recovery starts from. -/
structure Threads (J : SqliteJson) (store : Store) : Prop where
  constrained : Constrained J store
  threaded : ∀ branch ∈ store.branches.rows, ∃ lineage, Threaded store branch lineage
  covered : ∀ row ∈ store.messages.rows, ∃ branch ∈ store.branches.rows,
    branch.conversationId = row.conversationId
  unforked : ∀ branch ∈ store.branches.rows, branch.forkMessageId = none
  replies : ∀ row ∈ store.messages.rows, row.role = .assistant →
    ∃ user ∈ store.messages.rows, row.parentId = some user.id ∧
      user.conversationId = row.conversationId ∧ user.role = .user
  users : ∀ generation ∈ store.generations.rows, ∃ user ∈ store.messages.rows,
    user.id = generation.userMessageId ∧ user.role = .user
  unrouted : ∀ generation ∈ store.generations.rows, generation.modelRouteId = none ∧
    generation.providerFamily = none ∧ generation.opaqueReasoningState = []

/-- The columns of a message other than its parent link. -/
def Message.columns (row : Message) :
    String × String × MessageRole × String × MessageStatus × Option String × String :=
  (row.id, row.conversationId, row.role, row.content, row.status, row.generationId, row.createdAt)

def Message.cancelPending (row : Message) : Message :=
  if row.status == .pending then { row with status := .cancelled } else row

/-- What recovery leaves of the threads of a store. -/
structure Recovered (preservePartialGenerations : Bool) (store store' : Store) : Prop where
  settled : ∀ row ∈ store'.messages.rows, row.status ≠ .pending
  stopped : ∀ generation ∈ store'.generations.rows, generation.status ≠ .running
  branches : store'.branches.rows.map ConversationBranch.id =
    store.branches.rows.map ConversationBranch.id
  lineages : ∀ branch ∈ store.branches.rows, (branchLineage branch.id store').map Message.columns =
      if preservePartialGenerations then
        (branchLineage branch.id store).map fun row => row.cancelPending.columns
      else
        ((branchLineage branch.id store).filter fun row => row.status != .pending).map
          Message.columns

end LorePia.Conversations
