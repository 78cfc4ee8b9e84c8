import LorePia.Conversations.Threads

namespace LorePia.Conversations

open Lib List Conversations.Message Store Table
open DiscoveryStore (SqliteError SqliteJson)

/-!
# The conversation store — recovery of threads

Recovery succeeds on every store of threads and leaves threads: the generations that run are
cancelled, and the pending replies are cancelled with them or taken out of their lines.  Unlike
on a store the operations made, a pending reply may have messages below it, which recovery hangs
below its user message.

* `Threads.skipPending_head` — over a pending reply comes its user message;
* `Threads.recover_preserve`, `Threads.recover_discard` — what recovery makes of the lines.
-/

variable {recoveredAt : String}

/-! ### Statements that succeed -/

section Statements

variable {J : SqliteJson} {store : Store}

theorem enforce_ok (h : Constrained J store) : store.enforce J = .ok store :=
  enforce_eq_ok.mpr ⟨rfl, h.enforced⟩

theorem updateMessages_ok {hf : ∀ r, (f r).id = r.id}
    (h : Constrained J { store with messages := store.messages.updateWhere p f hf }) :
    store.updateMessages J p f hf = .ok (store.messages.rows.countP p,
      { store with messages := store.messages.updateWhere p f hf }) := by
  rw [updateMessages, enforce_ok h]
  rfl

theorem updateBranches_ok {hf : ∀ r, (f r).id = r.id}
    (h : Constrained J { store with branches := store.branches.updateWhere p f hf }) :
    store.updateBranches J p f hf = .ok (store.branches.rows.countP p,
      { store with branches := store.branches.updateWhere p f hf }) := by
  rw [updateBranches, enforce_ok h]
  rfl

theorem updateGenerations_ok {catalog : Catalog} {hf : ∀ r, (f r).id = r.id}
    (hguard : ∀ row ∈ store.generations.rows, p row = true →
      (f row).protocolStateGuard catalog = true)
    (h : Constrained J { store with generations := store.generations.updateWhere p f hf }) :
    store.updateGenerations J catalog p f hf = .ok (store.generations.rows.countP p,
      { store with generations := store.generations.updateWhere p f hf }) := by
  have hall : (store.generations.rows.filter p).all
      (fun row => (f row).protocolStateGuard catalog) = true := by
    rw [all_eq_true]
    intro row hrow
    obtain ⟨hmem, hp⟩ := mem_filter.mp hrow
    exact hguard row hmem hp
  rw [updateGenerations, require_true hall, enforce_ok h]
  rfl

theorem deleteMessages_ok
    (h : Constrained J { store with
      messages := store.messages.deleteWhere p
      generations := store.generations.updateWhere
        (fun row => row.assistantMessageId.any fun id => (store.messages.find? id).any p)
        (fun row => { row with assistantMessageId := none }) fun _ => rfl }) :
    store.deleteMessages J p = .ok (store.messages.rows.countP p, { store with
      messages := store.messages.deleteWhere p
      generations := store.generations.updateWhere
        (fun row => row.assistantMessageId.any fun id => (store.messages.find? id).any p)
        (fun row => { row with assistantMessageId := none }) fun _ => rfl }) := by
  rw [deleteMessages, enforce_ok h]
  rfl

end Statements

variable {X : Externals} {uuid : String} {store : Store} {branch : ConversationBranch}
  {row : Message}

/-! ### Generations -/

/-- `UPDATE generations SET status = 'cancelled', finished_at = ?`. -/
def GenerationRecord.cancel (recoveredAt : String) (row : GenerationRecord) : GenerationRecord :=
  { row with status := .cancelled, finishedAt := some recoveredAt }

@[simp] theorem GenerationRecord.cancel_id {row : GenerationRecord} :
    (row.cancel recoveredAt).id = row.id := rfl

def Store.cancelRunning (store : Store) (recoveredAt : String) : Store :=
  { store with
    generations := store.generations.updateWhere (fun row => row.status == .running)
      (GenerationRecord.cancel recoveredAt) fun _ => GenerationRecord.cancel_id }

theorem mem_cancelRunning :
    generation' ∈ (store.cancelRunning recoveredAt).generations.rows ↔
      ∃ generation ∈ store.generations.rows,
        (if generation.status == .running then generation.cancel recoveredAt else generation) =
          generation' := by
  rw [cancelRunning, mem_updateWhere]

theorem Threads.cancelRunning (h : Threads J store) (recoveredAt : String) :
    Constrained J (store.cancelRunning recoveredAt) := by
  refine h.constrained.editGenerations (f := fun row =>
    if row.status == .running then row.cancel recoveredAt else row) rfl ?_ ?_ ?_ ?_ ?_
  · intro row hrow
    have hchecks := h.constrained.generationChecks row hrow
    split
    · rw [GenerationRecord.checks, Bool.and_eq_true] at hchecks
      rw [GenerationRecord.checks, Bool.and_eq_true]
      exact ⟨rfl, hchecks.2⟩
    · exact hchecks
  · intro row
    split <;> rfl
  · intro row
    split <;> rfl
  · intro row
    split <;> rfl
  · intro row
    split <;> rfl

theorem Threads.updateGenerations_ok (h : Threads X.sqlite store) (catalog : Catalog)
    (recoveredAt : String) :
    execute X uuid (store.updateGenerations X.sqlite catalog (fun row => row.status == .running)
      (fun row => { row with status := .cancelled, finishedAt := some recoveredAt })
      fun _ => rfl) =
      .ok (store.generations.rows.countP (fun row => row.status == .running),
        store.cancelRunning recoveredAt) := by
  refine execute_ok.mpr (Conversations.updateGenerations_ok (fun row hrow _ => ?_)
    (h.cancelRunning recoveredAt))
  obtain ⟨hrt, hfam, hst⟩ := h.unrouted row hrow
  simp [GenerationRecord.protocolStateGuard, hrt, hfam, hst]

/-! ### Recovery that keeps partial replies -/

@[simp] theorem Message.cancelPending_id : row.cancelPending.id = row.id := by
  unfold cancelPending
  split <;> rfl

@[simp] theorem Message.cancelPending_conversationId :
    row.cancelPending.conversationId = row.conversationId := by
  unfold cancelPending
  split <;> rfl

@[simp] theorem Message.cancelPending_parentId : row.cancelPending.parentId = row.parentId := by
  unfold cancelPending
  split <;> rfl

@[simp] theorem Message.cancelPending_role : row.cancelPending.role = row.role := by
  unfold cancelPending
  split <;> rfl

@[simp] theorem Message.cancelPending_generationId :
    row.cancelPending.generationId = row.generationId := by
  unfold cancelPending
  split <;> rfl

theorem Message.cancelled_id (row : Message) :
    ({ row with status := .cancelled } : Message).id = row.id := rfl

/-- `UPDATE messages SET status = 'cancelled' WHERE status = 'pending'`. -/
def Store.cancelPending (store : Store) : Store :=
  { store with
    messages := store.messages.updateWhere (fun row => row.status == .pending)
      (fun row => { row with status := .cancelled }) Message.cancelled_id }

theorem Constrained.cancelPending (h : Constrained J store) :
    Constrained J store.cancelPending := by
  refine h.editMessages (f := Message.cancelPending) rfl (fun row => row.cancelPending_id)
    (fun row => row.cancelPending_conversationId) (fun row => row.cancelPending_role)
    (fun row => row.cancelPending_generationId) ?_ ?_ ?_
  · intro row hrow
    have hstat := h.status row hrow
    unfold Message.cancelPending
    split
    case isTrue hpend =>
      rw [beq_iff_eq] at hpend
      rw [hpend] at hstat
      exact .inl (hstat.resolve_right (by simp))
    case isFalse => exact hstat
  · intro row hrow
    rw [cancelPending_parentId]
    exact h.notOwnParent row hrow
  · intro row hrow id hid
    rw [cancelPending_parentId] at hid
    exact h.parent row hrow id hid

theorem Threaded.cancelPending (h : Threaded store branch lineage) (recoveredAt : String) :
    Threaded (store.cancelRunning recoveredAt).cancelPending branch
      (lineage.map cancelPending) := by
  have hall : lineage.filter (fun _ => true) = lineage := filter_true lineage
  rw [← hall]
  refine h.edit id (fun row' => ?_) (fun row => row.cancelPending_id)
    (fun row => row.cancelPending_conversationId) (fun row _ _ => row.cancelPending_parentId)
    (fun older _ => ?_) rfl rfl
  · rw [Store.cancelPending, Table.mem_updateWhere]
    simp only [true_and]
    exact Iff.rfl
  · rw [filter_true]
    rfl

/-- **Preserve.** Every pending reply is cancelled where it is. -/
theorem Threads.recover_preserve (h : Threads X.sqlite store) (catalog : Catalog)
    (recoveredAt : String) : ∃ store', applyRecoveryTransaction X uuid catalog true recoveredAt
      store = .ok store' ∧ Recovered true store store' := by
  refine ⟨(store.cancelRunning recoveredAt).cancelPending, ?_, ?_⟩
  · have hcancel := updateMessages_ok (h.cancelRunning recoveredAt).cancelPending
    exact then_ok (h.updateGenerations_ok catalog recoveredAt)
      (then_ok (execute_ok.mpr hcancel) rfl)
  · refine {
      settled := fun row hrow => ?_
      stopped := fun _ => not_running_updateWhere
      branches := rfl
      lineages := fun branch hbr => ?_ }
    · rw [Store.cancelPending, Table.mem_updateWhere] at hrow
      obtain ⟨row, hrow, rfl⟩ := hrow
      split
      case isTrue => simp
      case isFalse hpend => simpa using hpend
    · obtain ⟨lineage, hlin⟩ := h.threaded branch hbr
      rw [if_pos rfl, hlin.branchLineage_eq hbr,
        (hlin.cancelPending recoveredAt).branchLineage_eq hbr, map_map]
      rfl

/-! ### Recovery that drops partial replies -/

/-- The parent link that recovery gives a message below a pending reply. -/
def Store.liftedParent (store : Store) (row : Message) : Option String :=
  row.parentId.bind fun id =>
    ((store.messageIn row.conversationId id).filter isPendingAssistant).bind Message.parentId

def Store.lift (store : Store) (row : Message) : Message :=
  if row.parentId.any store.isPendingId then { row with parentId := store.liftedParent row }
  else row

/-- The head and the fork that recovery gives a branch. -/
def Store.retreat (store : Store) (recoveredAt : String) (branch : ConversationBranch) :
    ConversationBranch :=
  if branch.headMessageId.any store.isPendingId || branch.forkMessageId.any store.isPendingId then
    { branch with
      headMessageId := store.skipPending branch.headMessageId
      forkMessageId := store.skipPending branch.forkMessageId
      updatedAt := recoveredAt }
  else branch

@[simp] theorem Store.lift_id : (store.lift row).id = row.id := by
  unfold lift
  split <;> rfl

@[simp] theorem Store.lift_conversationId :
    (store.lift row).conversationId = row.conversationId := by
  unfold lift
  split <;> rfl

@[simp] theorem Store.lift_role : (store.lift row).role = row.role := by
  unfold lift
  split <;> rfl

@[simp] theorem Store.lift_status : (store.lift row).status = row.status := by
  unfold lift
  split <;> rfl

@[simp] theorem Store.lift_generationId : (store.lift row).generationId = row.generationId := by
  unfold lift
  split <;> rfl

@[simp] theorem Store.lift_columns : (store.lift row).columns = row.columns := by
  unfold lift
  split <;> rfl

@[simp] theorem isPendingAssistant_lift :
    isPendingAssistant (store.lift row) = isPendingAssistant row := by
  rw [isPendingAssistant, isPendingAssistant, lift_role, lift_status]

@[simp] theorem Store.retreat_id :
    (store.retreat recoveredAt branch).id = branch.id := by
  unfold retreat
  split <;> rfl

@[simp] theorem Store.retreat_conversationId :
    (store.retreat recoveredAt branch).conversationId = branch.conversationId := by
  unfold retreat
  split <;> rfl

theorem isPendingId_of_mem (hrow : row ∈ store.messages.rows) :
    store.isPendingId row.id = isPendingAssistant row := by
  have hfind : store.messages.find? row.id = some row := find?_eq_some.mpr ⟨hrow, rfl⟩
  rw [isPendingId, hfind]
  rfl

theorem skipPending_of_not_any {id : Option String} (h : ¬ id.any store.isPendingId = true) :
    store.skipPending id = id :=
  if_neg h

/-- Skipping a reply that is pending ends at its parent. -/
theorem skipPending_pending (hrow : row ∈ store.messages.rows)
    (hpend : isPendingAssistant row = true) :
    store.skipPending (some row.id) = row.parentId := by
  have hfind : store.messages.find? row.id = some row := find?_eq_some.mpr ⟨hrow, rfl⟩
  have hany : (some row.id).any store.isPendingId = true := by
    rw [Option.any_some, isPendingId_of_mem hrow]
    exact hpend
  rw [skipPending, if_pos hany, Option.bind_some, hfind]
  rfl

theorem Store.retreat_headMessageId :
    (store.retreat recoveredAt branch).headMessageId = store.skipPending branch.headMessageId := by
  unfold retreat
  split
  case isTrue => rfl
  case isFalse hnot =>
    rw [Bool.or_eq_true, not_or] at hnot
    exact (skipPending_of_not_any hnot.1).symm

theorem Store.retreat_forkMessageId (hfork : branch.forkMessageId = none) :
    (store.retreat recoveredAt branch).forkMessageId = none := by
  unfold retreat
  split
  case isTrue =>
    rw [hfork]
    rfl
  case isFalse => exact hfork

/-- The parent of a row is looked up in its conversation. -/
theorem Constrained.lift_parentId (h : Constrained J store) (hrow : row ∈ store.messages.rows) :
    (store.lift row).parentId = store.skipPending row.parentId := by
  unfold lift
  split
  case isTrue hany =>
    obtain ⟨id, hid, hpend⟩ := Option.any_eq_true _ _ |>.mp hany
    obtain ⟨parent, hpar, rfl, hconv⟩ := h.parent row hrow id hid
    rw [isPendingId_of_mem hpar] at hpend
    have hin : store.messageIn row.conversationId parent.id = some parent :=
      messageIn_eq_some.mpr ⟨hpar, rfl, hconv⟩
    show store.liftedParent row = _
    rw [liftedParent, hid, Option.bind_some, hin,
      Option.filter_eq_some_iff.mpr ⟨rfl, hpend⟩, Option.bind_some,
      skipPending_pending hpar hpend]
  case isFalse hany => exact (skipPending_of_not_any hany).symm

/-- **Skipping.** Over a pending reply comes its user message, which is not pending. -/
theorem Threads.skipPending_head (h : Threads J store) (ht : Threaded store branch lineage)
    (hsuf : older <:+ lineage) : store.skipPending (older.head?.map Message.id) =
      (older.filter fun row => !isPendingAssistant row).head?.map Message.id := by
  cases older with
  | nil => rfl
  | cons row rest =>
    obtain ⟨hrow, -⟩ := (ht.mem_iff row).mp (hsuf.subset mem_cons_self)
    by_cases hpend : isPendingAssistant row = true
    · have hrole : row.role = .assistant := by
        rw [isPendingAssistant, Bool.and_eq_true, beq_iff_eq] at hpend
        exact hpend.1
      obtain ⟨user, huser, hpar, -, huserRole⟩ := h.replies row hrow hrole
      have hrest : rest.head?.map Message.id = some user.id := by
        rw [← (ht.linked.of_suffix hsuf).1, hpar]
      obtain ⟨next, hnext, hnextId⟩ := Option.map_eq_some_iff.mp hrest
      have hnextMem : next ∈ rest := mem_of_mem_head? hnext
      have hnextStore := ((ht.mem_iff next).mp (hsuf.subset (mem_cons_of_mem row hnextMem))).1
      cases eq_of_key hnextStore huser hnextId
      have hkept : isPendingAssistant user = false := by simp [isPendingAssistant, huserRole]
      rw [head?_cons, Option.map_some, skipPending_pending hrow hpend, hpar,
        filter_cons_of_neg (by simp [hpend])]
      obtain ⟨later, rfl⟩ : ∃ later, rest = user :: later := head?_eq_some_iff.mp hnext
      rw [filter_cons_of_pos (by simp [hkept])]
      rfl
    · rw [Bool.not_eq_true] at hpend
      have hany : ¬ (some row.id).any store.isPendingId = true := by
        rw [Option.any_some, isPendingId_of_mem hrow, hpend]
        simp
      rw [head?_cons, Option.map_some, skipPending_of_not_any hany,
        filter_cons_of_pos (by simp [hpend])]
      rfl

/-! #### The branches -/

def Store.retreatBranches (store : Store) (recoveredAt : String) : Store :=
  { store with
    branches := store.branches.updateWhere
      (fun row => row.headMessageId.any store.isPendingId || row.forkMessageId.any store.isPendingId)
      (fun row => { row with
        headMessageId := store.skipPending row.headMessageId
        forkMessageId := store.skipPending row.forkMessageId
        updatedAt := recoveredAt }) fun _ => by rfl }

theorem Constrained.retreatBranches (h : Constrained J store)
    (hunforked : ∀ branch ∈ store.branches.rows, branch.forkMessageId = none)
    (recoveredAt : String) : Constrained J (store.retreatBranches recoveredAt) := by
  refine h.editBranches (f := store.retreat recoveredAt) rfl (fun row => retreat_id)
    (fun row => retreat_conversationId)
    (fun row hrow => retreat_forkMessageId (hunforked row hrow)) ?_
  intro branch hbr id hid
  rw [retreat_headMessageId] at hid
  by_cases hany : branch.headMessageId.any store.isPendingId = true
  · obtain ⟨headId, hheadId, hpend⟩ := Option.any_eq_true _ _ |>.mp hany
    obtain ⟨head, hhead, rfl, hconv⟩ := h.head branch hbr headId hheadId
    rw [isPendingId_of_mem hhead] at hpend
    rw [hheadId, skipPending_pending hhead hpend] at hid
    obtain ⟨parent, hpar, hparId, hin⟩ := h.parent head hhead id hid
    exact ⟨parent, hpar, hparId, hin.trans hconv⟩
  · rw [skipPending_of_not_any hany] at hid
    exact h.head branch hbr id hid

/-! #### The children -/

theorem Store.lifted_id (store : Store) (child : Message) :
    ({ child with
        parentId := child.parentId.bind fun id =>
          ((store.messageIn child.conversationId id).filter isPendingAssistant).bind
            parentId } : Message).id = child.id := rfl

def Store.liftMessages (store : Store) : Store :=
  { store with
    messages := store.messages.updateWhere (fun row => row.parentId.any store.isPendingId)
      (fun child => { child with
        parentId := child.parentId.bind fun id =>
          ((store.messageIn child.conversationId id).filter isPendingAssistant).bind
            Message.parentId }) store.lifted_id }

/-- The mended parent of a message is an older message of its line that stays. -/
theorem Threads.lift_parent (h : Threads J store) (ht : Threaded store branch lineage)
    (hsuf : row :: older <:+ lineage) {id : String} (hid : (store.lift row).parentId = some id) :
    ∃ parent ∈ older, parent.id = id ∧ isPendingAssistant parent = false := by
  obtain ⟨hrow, -⟩ := (ht.mem_iff row).mp (hsuf.subset mem_cons_self)
  have holder : older <:+ lineage := (suffix_cons row older).trans hsuf
  rw [h.constrained.lift_parentId hrow, (ht.linked.of_suffix hsuf).1,
    h.skipPending_head ht holder, Option.map_eq_some_iff] at hid
  obtain ⟨parent, hpar, rfl⟩ := hid
  obtain ⟨hmem, hkept⟩ := mem_filter.mp (mem_of_mem_head? hpar)
  exact ⟨parent, hmem, rfl, by simpa using hkept⟩

/-- Every message lies on the line of its conversation. -/
theorem Threads.exists_line (h : Threads J store) (hrow : row ∈ store.messages.rows) :
    ∃ branch lineage older, Threaded store branch lineage ∧ row :: older <:+ lineage ∧
      branch.conversationId = row.conversationId := by
  obtain ⟨branch, hbr, hconv⟩ := h.covered row hrow
  obtain ⟨lineage, hlin⟩ := h.threaded branch hbr
  obtain ⟨older, hsuf⟩ := exists_suffix ((hlin.mem_iff row).mpr ⟨hrow, hconv.symm⟩)
  exact ⟨branch, lineage, older, hlin, hsuf, hconv⟩

theorem Threads.liftMessages (h : Threads J store) {generations branches}
    (hc : Constrained J { store with generations, branches }) :
    Constrained J { store.liftMessages with generations, branches } := by
  refine hc.editMessages (f := store.lift) rfl (fun row => lift_id)
    (fun row => lift_conversationId) (fun row => lift_role)
    (fun row => lift_generationId) ?_ ?_ ?_
  · intro row hrow
    rw [lift_role, lift_status]
    exact h.constrained.status row hrow
  · intro row hrow hid
    obtain ⟨branch, lineage, older, ht, hsuf, -⟩ := h.exists_line hrow
    obtain ⟨parent, hpar, hparId, -⟩ := h.lift_parent ht hsuf hid
    exact ht.not_mem_older hsuf (hparId ▸ mem_map_of_mem hpar)
  · intro row hrow id hid
    obtain ⟨branch, lineage, older, ht, hsuf, hconv⟩ := h.exists_line hrow
    obtain ⟨parent, hpar, hparId, -⟩ := h.lift_parent ht hsuf hid
    obtain ⟨hstore, hin⟩ := (ht.mem_iff parent).mp (hsuf.subset (mem_cons_of_mem row hpar))
    exact ⟨parent, hstore, hparId, hin.trans hconv⟩

/-! #### The replies -/

theorem GenerationRecord.detached_id (row : GenerationRecord) :
    ({ row with assistantMessageId := none } : GenerationRecord).id = row.id := rfl

/-- `DELETE FROM messages WHERE role = 'assistant' AND status = 'pending'`. -/
def Store.dropPending (store : Store) : Store :=
  { store with
    messages := store.messages.deleteWhere isPendingAssistant
    generations := store.generations.updateWhere (fun row => row.assistantMessageId.any fun id =>
        (store.messages.find? id).any isPendingAssistant)
      (fun row => { row with assistantMessageId := none }) GenerationRecord.detached_id }

/-- The store after the statements of recovery. -/
def Store.recover (store : Store) (recoveredAt : String) : Store :=
  ((store.cancelRunning recoveredAt).retreatBranches recoveredAt).liftMessages.dropPending

theorem mem_liftMessages :
    row' ∈ store.liftMessages.messages.rows ↔ ∃ row ∈ store.messages.rows, store.lift row = row' := by
  rw [liftMessages, mem_updateWhere]
  exact Iff.rfl

theorem mem_recover :
    row' ∈ (store.recover recoveredAt).messages.rows ↔
      ∃ row ∈ store.messages.rows, (!isPendingAssistant row) = true ∧ store.lift row = row' := by
  show row' ∈ (store.liftMessages.messages.deleteWhere isPendingAssistant).rows ↔ _
  rw [mem_deleteWhere, mem_liftMessages]
  constructor
  · rintro ⟨⟨row, hrow, rfl⟩, hkept⟩
    rw [isPendingAssistant_lift] at hkept
    exact ⟨row, hrow, by rw [hkept]; rfl, rfl⟩
  · rintro ⟨row, hrow, hkept, rfl⟩
    rw [Bool.not_eq_true'] at hkept
    exact ⟨⟨row, hrow, rfl⟩, by rw [isPendingAssistant_lift, hkept]⟩

theorem mem_retreatBranches :
    branch' ∈ (store.recover recoveredAt).branches.rows ↔
      ∃ branch ∈ store.branches.rows, store.retreat recoveredAt branch = branch' := by
  show branch' ∈ (store.retreatBranches recoveredAt).branches.rows ↔ _
  rw [retreatBranches, mem_updateWhere]
  exact Iff.rfl

/-- Nothing refers to a pending reply any more, but its generation. -/
theorem Threads.dropPending (h : Threads J store) (recoveredAt : String)
    (hc : Constrained J
      ((store.cancelRunning recoveredAt).retreatBranches recoveredAt).liftMessages) :
    Constrained J (store.recover recoveredAt) := by
  have hlifted : ∀ row' ∈ ((store.cancelRunning recoveredAt).retreatBranches
      recoveredAt).liftMessages.messages.rows, ∃ row ∈ store.messages.rows,
        store.lift row = row' := fun row' hrow => mem_liftMessages.mp hrow
  refine hc.deleteMessages rfl rfl (fun generation => ?_) ?_ ?_ ?_ ?_
  · rw [Option.any_eq_true]
    refine exists_congr fun id => and_congr_right fun _ => ?_
    rw [Option.any_eq_true]
    simp only [Table.find?_eq_some, and_assoc]
  · intro row' hrow' hpend child' hchild' hid
    obtain ⟨row, hrow, rfl⟩ := hlifted _ hrow'
    obtain ⟨child, hchild, rfl⟩ := hlifted _ hchild'
    rw [isPendingAssistant_lift] at hpend
    rw [lift_id] at hid
    obtain ⟨branch, lineage, older, ht, hsuf, -⟩ := h.exists_line hchild
    obtain ⟨parent, hpar, hparId, hkept⟩ := h.lift_parent ht hsuf hid
    have hstore := ((ht.mem_iff parent).mp (hsuf.subset (mem_cons_of_mem child hpar))).1
    cases eq_of_key hstore hrow hparId
    rw [hpend] at hkept
    cases hkept
  · intro _ _ _ branch' hbr' hid
    obtain ⟨branch, hbr, rfl⟩ := mem_retreatBranches.mp hbr'
    rw [retreat_forkMessageId (h.unforked branch hbr)] at hid
    cases hid
  · intro row' hrow' hpend branch' hbr' hid
    obtain ⟨row, hrow, rfl⟩ := hlifted _ hrow'
    obtain ⟨branch, hbr, rfl⟩ := mem_retreatBranches.mp hbr'
    obtain ⟨lineage, ht⟩ := h.threaded branch hbr
    rw [isPendingAssistant_lift] at hpend
    rw [retreat_headMessageId, ht.head, h.skipPending_head ht suffix_rfl,
      lift_id, Option.map_eq_some_iff] at hid
    obtain ⟨head, hhead, hheadId⟩ := hid
    obtain ⟨hmem, hkept⟩ := mem_filter.mp (mem_of_mem_head? hhead)
    cases eq_of_key ((ht.mem_iff head).mp hmem).1 hrow hheadId
    rw [hpend] at hkept
    cases hkept
  · intro row' hrow' hpend generation' hgen' hid
    obtain ⟨row, hrow, rfl⟩ := hlifted _ hrow'
    obtain ⟨generation, hgen, rfl⟩ := mem_cancelRunning.mp hgen'
    obtain ⟨user, huser, huserId, hrole⟩ := h.users generation hgen
    have hsame : row.id = user.id := by
      rw [lift_id] at hid
      rw [huserId, ← hid]
      split <;> rfl
    cases eq_of_key hrow huser hsame
    rw [isPendingAssistant_lift, isPendingAssistant, hrole] at hpend
    cases hpend

theorem Threads.recover_threaded (h : Threads J store) (ht : Threaded store branch lineage)
    (recoveredAt : String) :
    Threaded (store.recover recoveredAt) (store.retreat recoveredAt branch)
      ((lineage.filter fun row => !isPendingAssistant row).map store.lift) := by
  refine ht.edit store.skipPending (fun _ => mem_recover) (fun _ => lift_id)
    (fun _ => lift_conversationId) (fun row hrow _ => ?_)
    (fun older holder => h.skipPending_head ht holder) retreat_headMessageId
    retreat_conversationId
  exact h.constrained.lift_parentId ((ht.mem_iff row).mp hrow).1

/-- Only replies are pending. -/
theorem Constrained.isPendingAssistant_eq (h : Constrained J store)
    (hrow : row ∈ store.messages.rows) : isPendingAssistant row = (row.status == .pending) := by
  rcases h.status row hrow with hrole | hstat
  · rw [isPendingAssistant, hrole]
    rfl
  · rw [isPendingAssistant, hstat, Bool.and_eq_right_iff_imp]
    intro hcontra
    cases hcontra

/-- **Discard.** Every pending reply goes, and what hung below it hangs below its user message. -/
theorem Threads.recover_discard (h : Threads X.sqlite store) (catalog : Catalog)
    (recoveredAt : String) : ∃ store', applyRecoveryTransaction X uuid catalog false recoveredAt
      store = .ok store' ∧ Recovered false store store' := by
  have hbrs : Constrained X.sqlite
      ((store.cancelRunning recoveredAt).retreatBranches recoveredAt) :=
    (h.cancelRunning recoveredAt).retreatBranches h.unforked recoveredAt
  have hmsgs : Constrained X.sqlite
      ((store.cancelRunning recoveredAt).retreatBranches recoveredAt).liftMessages :=
    h.liftMessages hbrs
  have hdelete : Constrained X.sqlite (store.recover recoveredAt) := h.dropPending _ hmsgs
  refine ⟨store.recover recoveredAt, ?_, ?_⟩
  · exact then_ok (h.updateGenerations_ok catalog recoveredAt)
      (then_ok (execute_ok.mpr (updateBranches_ok hbrs))
      (then_ok (execute_ok.mpr (updateMessages_ok hmsgs))
      (then_ok (execute_ok.mpr (deleteMessages_ok hdelete)) rfl)))
  · refine {
      settled := fun row' hrow' => ?_
      stopped := fun generation hmem => not_running_clear (fun _ => not_running_updateWhere) hmem
      branches := ?_
      lineages := fun branch hbr => ?_ }
    · obtain ⟨row, hrow, hkept, rfl⟩ := mem_recover.mp hrow'
      rw [h.constrained.isPendingAssistant_eq hrow] at hkept
      simpa using hkept
    · show (store.branches.rows.map (store.retreat recoveredAt)).map ConversationBranch.id = _
      rw [map_map]
      exact map_congr_left fun branch _ => retreat_id
    · obtain ⟨lineage, ht⟩ := h.threaded branch hbr
      have hbr' : store.retreat recoveredAt branch ∈ (store.recover recoveredAt).branches.rows :=
        mem_retreatBranches.mpr ⟨branch, hbr, rfl⟩
      have hlin := (h.recover_threaded ht recoveredAt).branchLineage_eq hbr'
      rw [retreat_id] at hlin
      have hfilter : lineage.filter (fun row => !isPendingAssistant row) =
          lineage.filter fun row => row.status != .pending := by
        refine filter_congr fun row hrow => ?_
        rw [h.constrained.isPendingAssistant_eq ((ht.mem_iff row).mp hrow).1]
        rfl
      rw [hlin, ht.branchLineage_eq hbr, if_neg (by simp), hfilter, map_map]
      exact map_congr_left fun row _ => lift_columns

/-- **Recovery.** Both modes of recovery succeed on a store of threads. -/
theorem Threads.recover (h : Threads X.sqlite store) (catalog : Catalog)
    (preservePartialGenerations : Bool) (recoveredAt : String) :
    ∃ store', applyRecoveryTransaction X uuid catalog preservePartialGenerations recoveredAt
      store = .ok store' ∧ Recovered preservePartialGenerations store store' := by
  cases preservePartialGenerations with
  | true => exact h.recover_preserve catalog recoveredAt
  | false => exact h.recover_discard catalog recoveredAt

end LorePia.Conversations
