import LorePia.Conversations.Effects

namespace LorePia.Conversations

open Lib List Option Table
open DiscoveryStore (SqliteJson)

/-!
# The conversation store — the invariant

A store is consistent when its parent links carry a rank, every reply hangs below a complete
user message, and the running generations are the ones with a pending reply, which is a leaf
and the head of the generation's branch and of no other.  Both effects of an operation keep
this.

* `Consistent.settles` and `Consistent.starts` — one lemma for each effect;
* `Consistent.toInvariant` — what it means for lineages, branches and generations.
-/

variable {other : GenerationRecord} {row : Message}

structure Consistent (store : Store) : Prop where
  ranked : ∃ rank : String → Nat, ∀ row ∈ store.messages.rows, ∀ id, row.parentId = some id →
    rank id < rank row.id
  replies : ∀ row ∈ store.messages.rows, row.role = .assistant →
    ∃ user ∈ store.messages.rows, row.parentId = some user.id ∧ user.role = .user ∧
      user.status = .complete
  childless : ∀ row ∈ store.messages.rows, row.status = .pending →
    ∀ child ∈ store.messages.rows, child.parentId ≠ some row.id
  pendingRuns : ∀ row ∈ store.messages.rows, row.status = .pending →
    ∃ generation ∈ store.generations.rows, generation.status = .running ∧ Owns generation row
  runsPending : ∀ generation ∈ store.generations.rows, generation.status = .running →
    ∃ row ∈ store.messages.rows, row.status = .pending ∧ Owns generation row
  heads : ∀ generation ∈ store.generations.rows, generation.status = .running →
    ∃ branch ∈ store.branches.rows, branch.id = generation.branchId ∧
      branch.headMessageId = generation.assistantMessageId
  onlyHeads : ∀ branch ∈ store.branches.rows, ∀ generation ∈ store.generations.rows,
    generation.status = .running → branch.headMessageId = generation.assistantMessageId →
    branch.id = generation.branchId
  forks : ∀ branch ∈ store.branches.rows, ∀ row ∈ store.messages.rows, row.status = .pending →
    branch.forkMessageId ≠ some row.id

theorem Consistent.empty : Consistent Store.empty where
  ranked := ⟨fun _ => 0, fun _ h => (not_mem_nil h).elim⟩
  replies := fun _ h => (not_mem_nil h).elim
  childless := fun _ h => (not_mem_nil h).elim
  pendingRuns := fun _ h => (not_mem_nil h).elim
  runsPending := fun _ h => (not_mem_nil h).elim
  heads := fun _ h => (not_mem_nil h).elim
  onlyHeads := fun _ h => (not_mem_nil h).elim
  forks := fun _ h => (not_mem_nil h).elim

/-! ### Settling -/

section Settling

variable {ended : String → Prop}

/-- A pending row of the new store was pending before, under a generation that goes on. -/
theorem Settles.was_pending (h : Settles ended store store')
    (hrow' : row' ∈ store'.messages.rows) (hpend : row'.status = .pending) :
    ∃ row ∈ store.messages.rows, row.status = .pending ∧ SameNode row row' := by
  obtain ⟨row, hrow, hsame, hkept⟩ := h.edited row' hrow'
  refine ⟨row, hrow, ?_, hsame⟩
  by_contra hstat
  exact hstat (hkept hstat ▸ hpend)

theorem Consistent.settles (h : Consistent store) (hs : Settles ended store store') :
    Consistent store' where
  ranked := by
    obtain ⟨rank, hrank⟩ := h.ranked
    refine ⟨rank, fun row' hrow' id hid => ?_⟩
    obtain ⟨row, hrow, hsame, _⟩ := hs.edited row' hrow'
    rw [hsame.id]
    exact hrank row hrow id (hsame.parentId.symm.trans hid)
  replies := by
    intro row' hrow' hrole
    obtain ⟨row, hrow, hsame, _⟩ := hs.edited row' hrow'
    obtain ⟨user, huser, hpar, huserRole, hcompl⟩ :=
      h.replies row hrow (hsame.role.symm.trans hrole)
    have hkept : user ∈ store'.messages.rows := hs.kept user huser (by simp [hcompl])
    exact ⟨user, hkept, hsame.parentId.trans hpar, huserRole, hcompl⟩
  childless := by
    intro row' hrow' hpend child' hchild' hpar
    obtain ⟨row, hrow, hstat, hsame⟩ := hs.was_pending hrow' hpend
    obtain ⟨child, hchild, hsameChild, _⟩ := hs.edited child' hchild'
    refine h.childless row hrow hstat child hchild ?_
    rw [← hsameChild.parentId, hpar, hsame.id]
  pendingRuns := by
    intro row' hrow' hpend
    obtain ⟨row, hrow, hstat, hsame⟩ := hs.was_pending hrow' hpend
    obtain ⟨generation, hgeneration, hrun, howns⟩ := h.pendingRuns row hrow hstat
    have howns' : Owns generation row' := howns.of_sameNode hsame
    have hopen : ¬ ended generation.id := hs.pending row' hrow' hpend _ howns'.ofGeneration
    obtain ⟨hmem, _⟩ := (hs.running generation).mpr ⟨hgeneration, hrun, hopen⟩
    exact ⟨generation, hmem, hrun, howns'⟩
  runsPending := by
    intro generation hgeneration hrun
    obtain ⟨hmem, _, hopen⟩ := (hs.running generation).mp ⟨hgeneration, hrun⟩
    obtain ⟨row, hrow, hpend, howns⟩ := h.runsPending generation hmem hrun
    obtain ⟨row', hrow', hpend', hsame⟩ := hs.unended row hrow hpend fun id hid => by
      rw [howns.ofGeneration, some.injEq] at hid
      exact hid ▸ hopen
    exact ⟨row', hrow', hpend', howns.of_sameNode hsame⟩
  heads := by
    intro generation hgeneration hrun
    obtain ⟨hmem, _, hopen⟩ := (hs.running generation).mp ⟨hgeneration, hrun⟩
    obtain ⟨row, hrow, hpend, howns⟩ := h.runsPending generation hmem hrun
    obtain ⟨branch, hbr, hid, hhead⟩ := h.heads generation hmem hrun
    obtain ⟨branch', hbr', hid', hhead'⟩ :=
      hs.pendingHeads branch hbr row hrow hpend (hhead.trans howns.isAssistant) fun id hgen => by
          rw [howns.ofGeneration, some.injEq] at hgen
          exact hgen ▸ hopen
    exact ⟨branch', hbr', hid'.trans hid, hhead'.trans hhead⟩
  onlyHeads := by
    intro branch' hbr' generation hgeneration hrun hhead'
    obtain ⟨hmem, _, _⟩ := (hs.running generation).mp ⟨hgeneration, hrun⟩
    rcases hs.heads branch' hbr' with ⟨branch, hbr, hid, hhead⟩ | hsett
    · rw [← hid]
      exact h.onlyHeads branch hbr generation hmem hrun (hhead.trans hhead')
    · -- the head the branch was moved to is not pending, the reply is
      obtain ⟨row, hrow, hpend, howns⟩ := h.runsPending generation hmem hrun
      exact absurd (hhead'.trans howns.isAssistant) (hsett.ne hrow hpend)
  forks := by
    intro branch' hbr' row' hrow' hpend
    obtain ⟨row, hrow, hstat, hsame⟩ := hs.was_pending hrow' hpend
    rw [hsame.id]
    rcases hs.forks branch' hbr' with ⟨branch, hbr, hfork⟩ | hsett
    · rw [← hfork]
      exact h.forks branch hbr row hrow hstat
    · exact hsett.ne hrow hstat

end Settling

/-! ### Starting -/

section Starting

variable {user assistant : Message} {generation : GenerationRecord} {store store' : Store}

section

variable (h : Starts user assistant generation store store')
include h

/-- The identifiers of the two new messages were free, and differ. -/
theorem Starts.fresh :
    (∀ row ∈ store.messages.rows, row.id ≠ user.id ∧ row.id ≠ assistant.id) ∧
      user.id ≠ assistant.id := by
  have huniq := store'.messages.unique
  rw [h.messages, map_append, nodup_append] at huniq
  obtain ⟨_, hnew, hdisj⟩ := huniq
  constructor
  · intro row hrow
    have hid : row.id ∈ store.messages.rows.map Message.id := mem_map_of_mem hrow
    exact ⟨hdisj _ hid _ (by simp), hdisj _ hid _ (by simp)⟩
  · simpa using hnew

theorem Starts.mem_messages :
    row ∈ store'.messages.rows ↔ row ∈ store.messages.rows ∨ row = user ∨ row = assistant := by
  simp [h.messages]

theorem Starts.mem_generations {row : GenerationRecord} :
    row ∈ store'.generations.rows ↔ row ∈ store.generations.rows ∨ row = generation := by
  simp [h.generations]

end

theorem Consistent.starts_ranked (h : Consistent store) (he : Enforced J store)
    (hs : Starts user assistant generation store store') :
    ∃ rank : String → Nat, ∀ row ∈ store'.messages.rows, ∀ id, row.parentId = some id →
      rank id < rank row.id := by
  obtain ⟨rank, hrank⟩ := h.ranked
  obtain ⟨hfresh, hne⟩ := hs.fresh
  -- the user message goes right above its parent, the reply right above the user message
  let base := user.parentId.elim 0 fun parent => rank parent + 1
  let rank' := fun id => if id = user.id then base else
    if id = assistant.id then base + 1 else rank id
  have hold : ∀ row ∈ store.messages.rows, rank' row.id = rank row.id := by
    intro row hrow
    obtain ⟨hu, ha⟩ := hfresh row hrow
    simp only [rank', if_neg hu, if_neg ha]
  have huser : rank' user.id = base := if_pos rfl
  have hasst : rank' assistant.id = base + 1 := by simp only [rank', if_neg hne.symm, if_pos]
  refine ⟨rank', fun row hrow id hid => ?_⟩
  rcases hs.mem_messages.mp hrow with hrow | rfl | rfl
  · obtain ⟨parent, hpar, rfl, _⟩ := he.parent hrow hid
    rw [hold parent hpar, hold row hrow]
    exact hrank row hrow parent.id hid
  · obtain ⟨parent, hpar, rfl, _⟩ := hs.userParent id hid
    have hbase : base = rank parent.id + 1 := by
      show row.parentId.elim 0 (fun parent => rank parent + 1) = _
      rw [hid]
      rfl
    rw [hold parent hpar, huser, hbase]
    omega
  · rw [hs.assistantParent, some.injEq] at hid
    rw [← hid, huser, hasst]
    omega

theorem Consistent.starts (h : Consistent store) (he : Enforced J store)
    (hs : Starts user assistant generation store store') : Consistent store' := by
  obtain ⟨hfresh, hne⟩ := hs.fresh
  -- the new rows, and the old ones that stay
  have huser : user ∈ store'.messages.rows := hs.mem_messages.mpr (.inr (.inl rfl))
  have hasst : assistant ∈ store'.messages.rows := hs.mem_messages.mpr (.inr (.inr rfl))
  have hgeneration : generation ∈ store'.generations.rows := hs.mem_generations.mpr (.inr rfl)
  have huserStat : user.status ≠ .pending := by simp [hs.userComplete]
  have hreply : ∀ {old : GenerationRecord}, old ∈ store.generations.rows →
      old.status = .running → ∀ {id}, old.assistantMessageId = some id →
      ∃ row ∈ store.messages.rows, row.status = .pending ∧ row.id = id := by
    intro old hold hrun id hid
    obtain ⟨row, hrow, hpend, howns⟩ := h.runsPending old hold hrun
    rw [howns.isAssistant, some.injEq] at hid
    exact ⟨row, hrow, hpend, hid⟩
  refine ⟨h.starts_ranked he hs, ?_, ?_, ?_, ?_, ?_, ?_, ?_⟩
  · intro row hrow hrole
    rcases hs.mem_messages.mp hrow with hrow | rfl | rfl
    · obtain ⟨parent, hpar, hrest⟩ := h.replies row hrow hrole
      exact ⟨parent, hs.mem_messages.mpr (.inl hpar), hrest⟩
    · rw [hs.userRole] at hrole
      cases hrole
    · exact ⟨user, huser, hs.assistantParent, hs.userRole, hs.userComplete⟩
  · -- no child: the new user message hangs below a settled message, the reply below the new one
    intro row hrow hpend child hchild hpar
    rcases hs.mem_messages.mp hrow with hrow | rfl | rfl
    · rcases hs.mem_messages.mp hchild with hchild | rfl | rfl
      · exact h.childless row hrow hpend child hchild hpar
      · exact hs.userParent.ne hrow hpend hpar
      · rw [hs.assistantParent, some.injEq] at hpar
        exact (hfresh row hrow).1 hpar.symm
    · exact huserStat hpend
    · rcases hs.mem_messages.mp hchild with hchild | rfl | rfl
      · obtain ⟨parent, hparRow, hid, _⟩ := he.parent hchild hpar
        exact (hfresh parent hparRow).2 hid
      · obtain ⟨parent, hparRow, hid, _⟩ := hs.userParent _ hpar
        exact (hfresh parent hparRow).2 hid
      · rw [hs.assistantParent, some.injEq] at hpar
        exact hne hpar
  · intro row hrow hpend
    rcases hs.mem_messages.mp hrow with hrow | rfl | rfl
    · obtain ⟨old, hold, hrest⟩ := h.pendingRuns row hrow hpend
      exact ⟨old, hs.mem_generations.mpr (.inl hold), hrest⟩
    · exact absurd hpend huserStat
    · exact ⟨generation, hgeneration, hs.running, hs.owns⟩
  · intro old hold hrun
    rcases hs.mem_generations.mp hold with hold | rfl
    · obtain ⟨row, hrow, hrest⟩ := h.runsPending old hold hrun
      exact ⟨row, hs.mem_messages.mpr (.inl hrow), hrest⟩
    · exact ⟨assistant, hasst, hs.assistantPending, hs.owns⟩
  · intro old hold hrun
    rcases hs.mem_generations.mp hold with hold | rfl
    · obtain ⟨branch, hbr, hid, hhead⟩ := h.heads old hold hrun
      obtain ⟨row, hrow, hpend, howns⟩ := h.runsPending old hold hrun
      have hkept := hs.pendingHeads branch hbr row hrow hpend (hhead.trans howns.isAssistant)
      exact ⟨branch, hkept, hid, hhead⟩
    · obtain ⟨branch, hbr, hid, hhead⟩ := hs.head
      exact ⟨branch, hbr, hid, hhead.trans hs.owns.isAssistant.symm⟩
  · intro branch hbr old hold hrun hhead
    rcases hs.branches branch hbr with hbr | ⟨hid, hnew, _⟩
    · rcases hs.mem_generations.mp hold with hold | rfl
      · exact h.onlyHeads branch hbr old hold hrun hhead
      · obtain ⟨row, hrow, hrowId, _⟩ := he.head hbr (hhead.trans hs.owns.isAssistant)
        exact absurd hrowId (hfresh row hrow).2
    · rcases hs.mem_generations.mp hold with hold | rfl
      · obtain ⟨row, hrow, _, hrowId⟩ := hreply hold hrun (hhead.symm.trans hnew)
        exact absurd hrowId (hfresh row hrow).2
      · exact hid
  · intro branch hbr row hrow hpend hfork
    -- a fork is an old message in either case
    have hsett : (∃ old ∈ store.branches.rows, old.forkMessageId = branch.forkMessageId) ∨
        store.Settled branch.forkMessageId := by
      rcases hs.branches branch hbr with hbr | ⟨_, _, hfork⟩
      · exact .inl ⟨branch, hbr, rfl⟩
      · exact hfork
    rcases hs.mem_messages.mp hrow with hrow | rfl | rfl
    · rcases hsett with ⟨old, hold, hsame⟩ | hsett
      · exact h.forks old hold row hrow hpend (hsame.trans hfork)
      · exact hsett.ne hrow hpend hfork
    · exact huserStat hpend
    · rcases hsett with ⟨old, hold, hsame⟩ | hsett
      · obtain ⟨parent, hpar, hid, _⟩ := he.fork hold (hsame.trans hfork)
        exact (hfresh parent hpar).2 hid
      · obtain ⟨parent, hpar, hid, _⟩ := hsett _ hfork
        exact (hfresh parent hpar).2 hid

end Starting

/-! ### What the invariant says -/

/-- The invariant of the conversation store, clause by clause. -/
structure Invariant (store : Store) : Prop where
  /-- Parent links stay inside one conversation. -/
  parents : ∀ row ∈ store.messages.rows, ∀ id, row.parentId = some id →
    ∃ parent ∈ store.messages.rows, parent.id = id ∧
      parent.conversationId = row.conversationId ∧ store.parentOf row = some parent
  /-- Parent links are acyclic. -/
  acyclic : ∀ row ∈ store.messages.rows,
    ¬ Relation.TransGen (fun child parent => store.parentOf child = some parent) row row
  /-- The recursion of a lineage query ends, after no more rows than there are. -/
  lineages : ∀ start, (∀ row ∈ start, row ∈ store.messages.rows) →
    ∃ lineage, Chain store.parentOf start lineage ∧ lineage.length ≤ store.messages.rows.length
  /-- The parent of a reply is a complete user message. -/
  replies : ∀ row ∈ store.messages.rows, row.role = .assistant →
    ∃ user ∈ store.messages.rows, row.parentId = some user.id ∧ user.role = .user ∧
      user.status = .complete
  /-- Pending replies and running generations are in bijection. -/
  pendingRuns : ∀ row ∈ store.messages.rows, row.role = .assistant → row.status = .pending →
    ∃! generation, generation ∈ store.generations.rows ∧ generation.status = .running ∧
      Owns generation row
  runsPending : ∀ generation ∈ store.generations.rows, generation.status = .running →
    ∃! row, row ∈ store.messages.rows ∧ row.role = .assistant ∧ row.status = .pending ∧
      Owns generation row
  /-- A pending reply has no child. -/
  childless : ∀ row ∈ store.messages.rows, row.status = .pending →
    ∀ child ∈ store.messages.rows, child.parentId ≠ some row.id
  /-- A pending reply is the head of the branch of its generation and of no other branch. -/
  heads : ∀ row ∈ store.messages.rows, row.status = .pending →
    ∀ generation ∈ store.generations.rows, generation.status = .running → Owns generation row →
    (∃ branch ∈ store.branches.rows, branch.id = generation.branchId ∧
      branch.headMessageId = some row.id) ∧
    ∀ branch ∈ store.branches.rows, branch.headMessageId = some row.id →
      branch.id = generation.branchId
  /-- No branch forks at a pending reply. -/
  forks : ∀ branch ∈ store.branches.rows, ∀ row ∈ store.messages.rows, row.status = .pending →
    branch.forkMessageId ≠ some row.id
  /-- A branch has at most one running generation. -/
  oneRunning : ∀ generation ∈ store.generations.rows, ∀ other ∈ store.generations.rows,
    generation.status = .running → other.status = .running →
    generation.branchId = other.branchId → generation = other

section Meaning

variable {store : Store}

theorem parentOf_eq_some {parent : Message} : store.parentOf row = some parent ↔
    row.parentId = some parent.id ∧ parent ∈ store.messages.rows ∧
      parent.conversationId = row.conversationId := by
  rw [Store.parentOf, bind_eq_some_iff]
  constructor
  · rintro ⟨id, hid, hfind⟩
    obtain ⟨hmem, rfl, hconv⟩ := messageIn_eq_some.mp hfind
    exact ⟨hid, hmem, hconv⟩
  · rintro ⟨hid, hmem, hconv⟩
    exact ⟨parent.id, hid, messageIn_eq_some.mpr ⟨hmem, rfl, hconv⟩⟩

/-- The parent links of the stored messages are ranked. -/
theorem Consistent.exists_ranked (h : Consistent store) :
    ∃ rank, Ranked store.parentOf (fun row => row ∈ store.messages.rows) rank := by
  obtain ⟨rank, hrank⟩ := h.ranked
  refine ⟨fun row => rank row.id, ?_, ?_⟩
  · intro row parent _ hpar
    exact (parentOf_eq_some.mp hpar).2.1
  · intro row parent hrow hpar
    exact hrank row hrow parent.id (parentOf_eq_some.mp hpar).1

theorem Consistent.exists_lineage (h : Consistent store) {start : Option Message}
    (hstart : ∀ row ∈ start, row ∈ store.messages.rows) :
    ∃ lineage, Chain store.parentOf start lineage ∧
      lineage.length ≤ store.messages.rows.length := by
  obtain ⟨rank, hranked⟩ := h.exists_ranked
  obtain ⟨lineage, hchain⟩ := hranked.exists_chain hstart
  exact ⟨lineage, hchain, hchain.length_le hranked hstart fun _ hrow => hrow⟩

/-- A generation owns at most one message, and a message belongs to at most one. -/
theorem Owns.reply_unique
    (h : Owns generation row) (h' : Owns generation row') (hrow : row ∈ store.messages.rows)
    (hrow' : row' ∈ store.messages.rows) : row = row' := by
  have hid : some row.id = some row'.id := h.isAssistant.symm.trans h'.isAssistant
  exact eq_of_key hrow hrow' (some.inj hid)

theorem Owns.generation_unique (h : Owns generation row) (h' : Owns other row)
    (hgeneration : generation ∈ store.generations.rows)
    (hoth : other ∈ store.generations.rows) : generation = other := by
  have hid : some generation.id = some other.id := h.ofGeneration.symm.trans h'.ofGeneration
  exact eq_of_key hgeneration hoth (some.inj hid)

/-- Two running generations of one branch have their replies at its head. -/
theorem Consistent.one_running (h : Consistent store)
    (hgeneration : generation ∈ store.generations.rows)
    (hoth : other ∈ store.generations.rows) (hrun : generation.status = .running)
    (hrun' : other.status = .running) (hbr : generation.branchId = other.branchId) :
    generation = other := by
  obtain ⟨row, hrow, _, howns⟩ := h.runsPending generation hgeneration hrun
  obtain ⟨row', hrow', _, howns'⟩ := h.runsPending other hoth hrun'
  obtain ⟨branch, hmem, hid, hhead⟩ := h.heads generation hgeneration hrun
  obtain ⟨branch', hmem', hid', hhead'⟩ := h.heads other hoth hrun'
  have hsame : branch = branch' := eq_of_key hmem hmem' (hid.trans (hbr.trans hid'.symm))
  have hreply : some row.id = some row'.id := by
    rw [← howns.isAssistant, ← howns'.isAssistant, ← hhead, ← hhead', hsame]
  have hrows : row = row' := eq_of_key hrow hrow' (some.inj hreply)
  exact howns.generation_unique (hrows ▸ howns') hgeneration hoth

theorem Consistent.toInvariant (h : Consistent store) (he : Enforced J store) :
    Invariant store where
  parents := by
    intro row hrow id hid
    obtain ⟨parent, hpar, rfl, hconv⟩ := he.parent hrow hid
    exact ⟨parent, hpar, rfl, hconv, parentOf_eq_some.mpr ⟨hid, hpar, hconv⟩⟩
  acyclic := by
    intro row hrow
    obtain ⟨rank, hranked⟩ := h.exists_ranked
    exact hranked.acyclic hrow
  lineages := fun start hstart => h.exists_lineage hstart
  replies := h.replies
  pendingRuns := by
    intro row hrow _ hpend
    obtain ⟨generation, hmem, hrun, howns⟩ := h.pendingRuns row hrow hpend
    refine ⟨generation, ⟨hmem, hrun, howns⟩, ?_⟩
    rintro other ⟨hoth, _, howns'⟩
    exact howns'.generation_unique howns hoth hmem
  runsPending := by
    intro generation hgeneration hrun
    obtain ⟨row, hrow, hpend, howns⟩ := h.runsPending generation hgeneration hrun
    have hrole : row.role = .assistant := he.role_of_not_complete hrow (by simp [hpend])
    refine ⟨row, ⟨hrow, hrole, hpend, howns⟩, ?_⟩
    rintro other ⟨hoth, _, _, howns'⟩
    exact howns'.reply_unique howns hoth hrow
  childless := h.childless
  heads := by
    intro row hrow hpend generation hgeneration hrun howns
    constructor
    · obtain ⟨branch, hbr, hid, hhead⟩ := h.heads generation hgeneration hrun
      exact ⟨branch, hbr, hid, hhead.trans howns.isAssistant⟩
    · intro branch hbr hhead
      exact h.onlyHeads branch hbr generation hgeneration hrun (hhead.trans howns.isAssistant.symm)
  forks := h.forks
  oneRunning := by
    intro generation hgeneration other hoth hrun hrun' hbr
    exact h.one_running hgeneration hoth hrun hrun' hbr

end Meaning

end LorePia.Conversations
