import Mathlib.Data.List.Basic

namespace LorePia.Lib

open List

/-!
# Batches

A batch writes the rows of a list one after the other: each write changes what is found under the
key of its row, and nothing else.  Where no key repeats, the order of the rows does not matter, and
what each write requires of the row it finds held before the batch.

* `Batch` — the writes of a list of rows, from one lookup to the next;
* `Batch.lookup_eq` — what is found after a batch;
* `Batch.required` — what the writes required was there from the start.
-/

variable {κ ρ β : Type} [DecidableEq κ] {key : ρ → κ} {write : ρ → Option β → Option β}
  {Requires : ρ → Option β → Prop} {rows : List ρ} {before after : κ → Option β} {k : κ} {r : ρ}

/-- The writes of a list of rows.  `write` makes of what is found under the key of a row what is
    found there next, and `Requires` is what it asks of it. -/
inductive Batch (key : ρ → κ) (write : ρ → Option β → Option β) (Requires : ρ → Option β → Prop) :
    List ρ → (κ → Option β) → (κ → Option β) → Prop
  | nil (before : κ → Option β) : Batch key write Requires [] before before
  | cons (r : ρ) (rows : List ρ) (before mid after : κ → Option β)
      (hrequires : Requires r (before (key r)))
      (hwrite : ∀ k, mid k = if key r = k then write r (before k) else before k)
      (h : Batch key write Requires rows mid after) :
      Batch key write Requires (r :: rows) before after

section

variable (h : Batch key write Requires rows before after)
include h

/-- A key that no row has is not written. -/
theorem Batch.lookup_of_not_mem (hk : k ∉ rows.map key) : after k = before k := by
  induction h with
  | nil before => rfl
  | cons r rows before mid after _ hwrite _ ih =>
    rw [map_cons, mem_cons, not_or] at hk
    rw [ih hk.2, hwrite, if_neg fun heq => hk.1 heq.symm]

/-- **What is found under the key of a row** is what the row makes of what was found there. -/
theorem Batch.lookup_of_mem (hnodup : (rows.map key).Nodup) (hr : r ∈ rows) :
    Requires r (before (key r)) ∧ after (key r) = write r (before (key r)) := by
  induction h with
  | nil before => cases hr
  | cons first rows before mid after hrequires hwrite h ih =>
    rw [map_cons, nodup_cons] at hnodup
    rcases mem_cons.mp hr with rfl | hr
    · refine ⟨hrequires, ?_⟩
      rw [h.lookup_of_not_mem hnodup.1, hwrite, if_pos rfl]
    · -- the first row has another key
      have hne : key first ≠ key r := by
        intro heq
        rw [heq] at hnodup
        exact hnodup.1 (mem_map_of_mem hr)
      have hrest := ih hnodup.2 hr
      rw [hwrite, if_neg hne] at hrest
      exact hrest

/-- What every row of a batch required. -/
theorem Batch.required
    (hnodup : (rows.map key).Nodup) (hr : r ∈ rows) : Requires r (before (key r)) :=
  (h.lookup_of_mem hnodup hr).1

/-- **What is found after a batch.** -/
theorem Batch.lookup_eq (hnodup : (rows.map key).Nodup) :
    after k = (rows.find? fun r => decide (key r = k)).elim (before k)
      fun r => write r (before k) := by
  cases hfind : rows.find? fun r => decide (key r = k) with
  | none =>
    refine h.lookup_of_not_mem fun hmem => ?_
    obtain ⟨r, hr, hkey⟩ := mem_map.mp hmem
    have hnot := List.find?_eq_none.mp hfind r hr
    rw [hkey, decide_eq_true_eq] at hnot
    exact hnot rfl
  | some r =>
    have hdecided := find?_some hfind
    have hkey : key r = k := of_decide_eq_true hdecided
    subst hkey
    exact (h.lookup_of_mem hnodup (mem_of_find?_eq_some hfind)).2

end

end LorePia.Lib
