import Mathlib.Data.List.Nodup
import Mathlib.Data.List.Perm.Subperm

namespace LorePia.Lib

open List

/-!
# Chains of parent links

A partial function `next` sends a node to its parent.  `ancestry next n start` follows the
links from `start` for at most `n` nodes; `Chain next start l` says that the links, followed
to the end, visit exactly `l`.

* `Ranked.exists_chain` — where a rank falls along every link, every chain ends;
* `Chain.ancestry_eq` — a bounded walk is a prefix of the chain;
* `Chain.length_le` — a chain through a finite set of nodes is no longer than the set;
* `ancestry_congr` — link functions that agree on a closed set of nodes have the same walks.
-/

variable {α : Type _}

/-- The nodes met from `start`, at most `n` of them. -/
def ancestry (next : α → Option α) : Nat → Option α → List α
  | 0, _ => []
  | _ + 1, none => []
  | n + 1, some a => a :: ancestry next n (next a)

/-- The links from `start` end, and visit `l` on the way. -/
inductive Chain (next : α → Option α) : Option α → List α → Prop
  | nil : Chain next none []
  | cons {a : α} {l : List α} : Chain next (next a) l → Chain next (some a) (a :: l)

/-- A closed set of nodes with a rank that falls along every link. -/
structure Ranked (next : α → Option α) (P : α → Prop) (rank : α → Nat) : Prop where
  closed : ∀ a b, P a → next a = some b → P b
  falls : ∀ a b, P a → next a = some b → rank b < rank a

variable {next : α → Option α} {P : α → Prop} {rank : α → Nat} {start : Option α}

@[simp] theorem ancestry_none : ancestry next n none = [] := by
  cases n <;> rfl

/-- What the start satisfies and every link keeps holds on a walk. -/
theorem forall_mem_ancestry (hstart : ∀ a ∈ start, P a)
    (hnext : ∀ a b, P a → next a = some b → P b) : ∀ a ∈ ancestry next n start, P a := by
  induction n generalizing start with
  | zero => simp [ancestry]
  | succ n ih =>
    cases start with
    | none => simp
    | some a =>
      have ha : P a := hstart a rfl
      rw [ancestry, forall_mem_cons]
      exact ⟨ha, ih fun b hb => hnext a b ha hb⟩

/-- Two link functions that agree on a closed set give the same walks there. -/
theorem ancestry_congr (hstart : ∀ a ∈ start, P a)
    (hnext : ∀ a b, P a → next a = some b → P b) (hagree : ∀ a, P a → next' a = next a) :
    ancestry next' n start = ancestry next n start := by
  induction n generalizing start with
  | zero => rfl
  | succ n ih =>
    cases start with
    | none => rfl
    | some a =>
      have ha : P a := hstart a rfl
      rw [ancestry, ancestry, hagree a ha, ih fun b hb => hnext a b ha hb]

theorem Chain.unique (h : Chain next start l) (h' : Chain next start l') : l = l' := by
  induction h generalizing l' with
  | nil =>
    cases h'
    rfl
  | cons _ ih =>
    obtain _ | hrest := h'
    rw [ih hrest]

/-- Stopping a walk early cuts the chain. -/
theorem Chain.ancestry_eq_take (h : Chain next start l) : ancestry next n start = l.take n := by
  induction h generalizing n with
  | nil => simp
  | cons _ ih =>
    cases n with
    | zero => rfl
    | succ n => rw [ancestry, ih, take_succ_cons]

/-- A walk of as many steps as the chain is long sees all of it. -/
theorem Chain.ancestry_eq (h : Chain next start l) (hn : l.length ≤ n) :
    ancestry next n start = l := by
  rw [h.ancestry_eq_take, take_of_length_le hn]

/-- From the parent of a node of a chain, the part behind the node follows. -/
theorem Chain.behind {newer older : List α} (h : Chain next start (newer ++ a :: older)) :
    Chain next (next a) older := by
  induction newer generalizing start with
  | nil =>
    cases h with
    | cons hrest => exact hrest
  | cons b newer ih =>
    cases h with
    | cons hrest => exact ih hrest

/-- A chain is one of every link function that agrees on its nodes. -/
theorem Chain.congr (h : Chain next start l) (hagree : ∀ a ∈ l, next' a = next a) :
    Chain next' start l := by
  induction h with
  | nil => exact .nil
  | @cons a l _ ih =>
    rw [forall_mem_cons] at hagree
    refine .cons ?_
    rw [hagree.1]
    exact ih hagree.2

/-- **Closure rule.** What the start satisfies and every link keeps holds along the chain. -/
theorem Chain.forall_mem (h : Chain next start l) (hstart : ∀ a ∈ start, P a)
    (hnext : ∀ a b, P a → next a = some b → P b) : ∀ a ∈ l, P a := by
  induction h with
  | nil => simp
  | @cons a l _ ih =>
    have ha : P a := hstart a rfl
    rw [forall_mem_cons]
    exact ⟨ha, ih fun b hb => hnext a b ha hb⟩

/-- Where a rank falls along every link, every chain ends. -/
theorem Ranked.exists_chain (h : Ranked next P rank) (hstart : ∀ a ∈ start, P a) :
    ∃ l, Chain next start l := by
  -- by strong induction on the rank of the node the chain starts from
  have hsome : ∀ n a, P a → rank a = n → ∃ l, Chain next (some a) l := by
    intro n
    induction n using Nat.strongRecOn with
    | _ n ih =>
      intro a ha hn
      match hb : next a with
      | none =>
        have hrest : Chain next (next a) [] := hb ▸ Chain.nil
        exact ⟨_, hrest.cons⟩
      | some b =>
        have hlt : rank b < n := hn ▸ h.falls a b ha hb
        obtain ⟨l, hl⟩ := ih (rank b) hlt b (h.closed a b ha hb) rfl
        have hrest : Chain next (next a) l := hb ▸ hl
        exact ⟨_, hrest.cons⟩
  cases start with
  | none => exact ⟨[], .nil⟩
  | some a => exact hsome (rank a) a (hstart a rfl) rfl

/-- Further along a chain, the rank is smaller. -/
theorem Chain.pairwise_rank (hr : Ranked next P rank) (h : Chain next start l)
    (hstart : ∀ a ∈ start, P a) : l.Pairwise (fun a b => rank b < rank a) := by
  induction h with
  | nil => exact List.Pairwise.nil
  | @cons a l hrest ih =>
    have ha : P a := hstart a rfl
    refine pairwise_cons.mpr ⟨?_, ih fun b hb => hr.closed a b ha hb⟩
    have hbelow : ∀ b ∈ l, P b ∧ rank b < rank a := by
      refine hrest.forall_mem (fun b hb => ⟨hr.closed a b ha hb, hr.falls a b ha hb⟩) ?_
      rintro b c ⟨hb, hlt⟩ hc
      exact ⟨hr.closed b c hb hc, Nat.lt_trans (hr.falls b c hb hc) hlt⟩
    exact fun b hb => (hbelow b hb).2

theorem Chain.nodup (hr : Ranked next P rank) (h : Chain next start l)
    (hstart : ∀ a ∈ start, P a) : l.Nodup := by
  refine (h.pairwise_rank hr hstart).imp fun {a b} hlt => ?_
  rintro rfl
  omega

/-- A chain through listed nodes is no longer than the list. -/
theorem Chain.length_le (hr : Ranked next P rank) (h : Chain next start l)
    (hstart : ∀ a ∈ start, P a) {nodes : List α} (hnodes : ∀ a, P a → a ∈ nodes) :
    l.length ≤ nodes.length := by
  have hsub : l ⊆ nodes := fun a ha => hnodes a (h.forall_mem hstart hr.closed a ha)
  exact ((h.nodup hr hstart).subperm hsub).length_le

/-- A ranked link relation has no cycle. -/
theorem Ranked.acyclic (h : Ranked next P rank) (ha : P a) :
    ¬ Relation.TransGen (fun a b => next a = some b) a a := by
  have hlt : ∀ {b}, Relation.TransGen (fun a b => next a = some b) a b → P b ∧ rank b < rank a := by
    intro b hab
    induction hab with
    | single hb => exact ⟨h.closed _ _ ha hb, h.falls _ _ ha hb⟩
    | tail _ hc ih => exact ⟨h.closed _ _ ih.1 hc, Nat.lt_trans (h.falls _ _ ih.1 hc) ih.2⟩
  intro hcycle
  exact absurd (hlt hcycle).2 (Nat.lt_irrefl _)

end LorePia.Lib
