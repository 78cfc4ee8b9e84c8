import Mathlib.Data.List.Destutter
import Mathlib.Data.List.Sort

namespace LorePia.Lib

open List

/-!
# Canonical lists

A set kept as a vector is brought into one form: sorted by a key, with neighbours that are equal
merged.  Two vectors with the same elements then have the same form, and a form is its own form.

* `sortByKey` — the stable sort by a key;
* `canonical` — sort, then merge equal neighbours;
* `canonical_canonical` — canonical lists are fixed points;
* `canonical_eq_iff` — under an injective key, canonical lists are equal iff they have the same
  elements.
-/

variable {α κ : Type} [LinearOrder κ] {key : α → κ} {l : List α} {a : α}

instance keyLe_total (key : α → κ) : Std.Total fun a b => key a ≤ key b :=
  ⟨fun a b => le_total (key a) (key b)⟩

instance keyLe_trans (key : α → κ) : IsTrans α fun a b => key a ≤ key b := ⟨fun _ _ _ => le_trans⟩

/-! ### Sorting -/

/-- The stable sort by a key. -/
def sortByKey (key : α → κ) (l : List α) : List α := l.insertionSort fun a b => key a ≤ key b

theorem perm_sortByKey (key : α → κ) (l : List α) : (sortByKey key l).Perm l :=
  perm_insertionSort _ l

@[simp] theorem mem_sortByKey : a ∈ sortByKey key l ↔ a ∈ l := (perm_sortByKey key l).mem_iff

@[simp] theorem length_sortByKey : (sortByKey key l).length = l.length :=
  (perm_sortByKey key l).length_eq

theorem pairwise_sortByKey (key : α → κ) (l : List α) :
    (sortByKey key l).Pairwise fun a b => key a ≤ key b :=
  pairwise_insertionSort _ l

theorem sortByKey_of_pairwise (h : l.Pairwise fun a b => key a ≤ key b) : sortByKey key l = l :=
  h.insertionSort_eq

@[simp] theorem sortByKey_sortByKey : sortByKey key (sortByKey key l) = sortByKey key l :=
  sortByKey_of_pairwise (pairwise_sortByKey key l)

/-- Where no key repeats, the sort is strict. -/
theorem pairwise_lt_sortByKey (h : (l.map key).Nodup) :
    (sortByKey key l).Pairwise fun a b => key a < key b := by
  have hnodup : ((sortByKey key l).map key).Nodup :=
    ((perm_sortByKey key l).map key).nodup_iff.mpr h
  have hne : (sortByKey key l).Pairwise fun a b => key a ≠ key b := pairwise_map.mp hnodup
  exact (pairwise_sortByKey key l).imp₂ (fun _ _ hle hne => lt_of_le_of_ne hle hne) hne

/-- A list sorted strictly repeats no key. -/
theorem nodup_of_pairwise_lt (h : l.Pairwise fun a b => key a < key b) : (l.map key).Nodup :=
  pairwise_map.mpr (h.imp fun hlt => hlt.ne)

/-- A sorted list whose neighbours have different keys is sorted strictly. -/
theorem pairwise_lt_of_isChain (hsrt : l.Pairwise fun a b => key a ≤ key b)
    (hchain : l.IsChain fun a b => key a ≠ key b) : l.Pairwise fun a b => key a < key b := by
  have hlt : l.IsChain fun a b => key a < key b := by
    have hle := hsrt.isChain
    rw [isChain_iff_getElem] at hle hchain ⊢
    intro i hi
    exact lt_of_le_of_ne (hle i hi) (hchain i hi)
  exact isChain_iff_pairwise.mp hlt

/-! ### Merging equal neighbours -/

variable [DecidableEq α]

theorem mem_destutter'_ne : a ∈ l.destutter' (· ≠ ·) b ↔ a = b ∨ a ∈ l := by
  induction l generalizing b with
  | nil => simp
  | cons c l ih =>
    by_cases h : b = c
    · subst h
      rw [destutter'_cons_neg _ (by simp), ih, mem_cons]
      tauto
    · rw [destutter'_cons_pos _ h, mem_cons, ih, mem_cons]

@[simp] theorem mem_destutter_ne : a ∈ l.destutter (· ≠ ·) ↔ a ∈ l := by
  cases l with
  | nil => simp
  | cons b l => rw [destutter_cons', mem_destutter'_ne, mem_cons]

/-- Sort by a key, then merge equal neighbours. -/
def canonical (key : α → κ) (l : List α) : List α := (sortByKey key l).destutter (· ≠ ·)

@[simp] theorem mem_canonical : a ∈ canonical key l ↔ a ∈ l := by
  rw [canonical, mem_destutter_ne, mem_sortByKey]

theorem canonical_eq_nil : canonical key l = [] ↔ l = [] := by
  rw [canonical, destutter_eq_nil, ← length_eq_zero_iff, length_sortByKey, length_eq_zero_iff]

/-- A list without equal neighbours, in the order of its keys, is canonical. -/
theorem canonical_of_pairwise (hsrt : l.Pairwise fun a b => key a ≤ key b)
    (hchain : l.IsChain (· ≠ ·)) : canonical key l = l := by
  rw [canonical, sortByKey_of_pairwise hsrt, destutter_of_isChain _ _ hchain]

/-- **Canonical lists are fixed points.** -/
@[simp] theorem canonical_canonical : canonical key (canonical key l) = canonical key l := by
  apply canonical_of_pairwise
  · exact (pairwise_sortByKey key l).sublist (destutter_sublist _ _)
  · exact isChain_destutter _ _

theorem pairwise_lt_canonical (hkey : Function.Injective key) :
    (canonical key l).Pairwise fun a b => key a < key b := by
  apply pairwise_lt_of_isChain
  · exact (pairwise_sortByKey key l).sublist (destutter_sublist _ _)
  · exact (isChain_destutter _ _).imp fun a b hne heq => hne (hkey heq)

/-- **Same elements, same form.** -/
theorem canonical_eq_iff (hkey : Function.Injective key) :
    canonical key l = canonical key l' ↔ ∀ a, a ∈ l ↔ a ∈ l' := by
  constructor
  · intro h a
    have hleft : a ∈ canonical key l ↔ a ∈ l := mem_canonical
    rw [← hleft, h, mem_canonical]
  · intro h
    have hnodup (l : List α) : (canonical key l).Nodup :=
      (pairwise_lt_canonical hkey).imp fun hlt heq => hlt.ne (congrArg key heq)
    have hperm : (canonical key l).Perm (canonical key l') := by
      rw [perm_ext_iff_of_nodup (hnodup l) (hnodup l')]
      simpa using h
    refine hperm.eq_of_pairwise (fun a b _ _ hab hba => ?_) (pairwise_lt_canonical hkey)
      (pairwise_lt_canonical hkey)
    exact absurd (hab.trans hba) (lt_irrefl _)

end LorePia.Lib
