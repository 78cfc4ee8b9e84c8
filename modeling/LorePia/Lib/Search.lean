import Mathlib.Order.Lattice
import Mathlib.Tactic.Common

namespace LorePia.Lib

open List

/-!
# Binary search

A sorted vector is searched by halving a window.  The search finds an element with the key
whenever there is one, at every length and among any number of equal keys.

* `searchWindow_spec` — the invariant: the window keeps an element with the key;
* `isOk_binarySearch` — the search succeeds iff the vector has an element with the key.
-/

variable {α κ : Type} [LinearOrder κ] {key : α → κ} {l : List α} {k : κ} {a x y : α} {i : Nat}

/-- Where the window starts once it has at most one element.  The fuel bounds its size. -/
def searchWindow (key : α → κ) (l : List α) (k : κ) : Nat → Nat → Nat → Nat
  | 0, base, _ => base
  | fuel + 1, base, size =>
    if size ≤ 1 then base
    else
      let mid := base + size / 2
      let greater := l[mid]?.any fun x => k < key x
      searchWindow key l k fuel (if greater then base else mid) (size - size / 2)

/-- The index of an element with the key, or the index at which one could be inserted. -/
def binarySearch (key : α → κ) (l : List α) (k : κ) : Except Nat Nat :=
  let base := searchWindow key l k l.length 0 l.length
  match l[base]? with
  | none => .error base
  | some x => if key x = k then .ok base else .error (if key x < k then base + 1 else base)

/-- In a sorted list, keys grow with the index. -/
theorem key_le_of_index_le (hsrt : l.Pairwise fun a b => key a ≤ key b)
    (hi : l[i]? = some x) (hj : l[j]? = some y) (hij : i ≤ j) : key x ≤ key y := by
  obtain ⟨hi', rfl⟩ := List.getElem?_eq_some_iff.mp hi
  obtain ⟨hj', rfl⟩ := List.getElem?_eq_some_iff.mp hj
  rcases Nat.lt_or_eq_of_le hij with hlt | rfl
  · exact pairwise_iff_getElem.mp hsrt i j hi' hj' hlt
  · exact le_refl _

/-- **Invariant of the search.** A window with an element of the key shrinks to one. -/
theorem searchWindow_spec (fuel base size : Nat) (hsrt : l.Pairwise fun a b => key a ≤ key b)
    (hrange : base + size ≤ l.length) (hfuel : size ≤ fuel + 1) (hlow : base ≤ i)
    (hhigh : i < base + size) (hx : l[i]? = some x) (hk : key x = k) :
    ∃ y, l[searchWindow key l k fuel base size]? = some y ∧ key y = k := by
  induction fuel generalizing base size i x with
  | zero =>
    have hi : i = base := by omega
    exact ⟨x, hi ▸ hx, hk⟩
  | succ fuel ih =>
    rw [searchWindow]
    by_cases hsize : size ≤ 1
    · rw [if_pos hsize]
      have hi : i = base := by omega
      exact ⟨x, hi ▸ hx, hk⟩
    · rw [if_neg hsize]
      have hmid : base + size / 2 < l.length := by omega
      have hm : l[base + size / 2]? = some l[base + size / 2] := getElem?_eq_getElem hmid
      simp only [hm, Option.any_some, decide_eq_true_eq]
      by_cases hgreater : k < key l[base + size / 2]
      · rw [if_pos hgreater]
        -- nothing from the middle on has the key
        have hbelow : i < base + size / 2 := by
          by_contra hle
          have hkey := key_le_of_index_le hsrt hm hx (by omega)
          exact absurd (hk ▸ hkey) (not_le.mpr hgreater)
        exact ih _ _ (by omega) (by omega) hlow (by omega) hx hk
      · rw [if_neg hgreater]
        by_cases hbelow : i < base + size / 2
        · -- the middle lies between two equal keys
          have hkey := key_le_of_index_le hsrt hx hm (by omega)
          have hmkey : key l[base + size / 2] = k := le_antisymm (not_lt.mp hgreater) (hk ▸ hkey)
          exact ih _ _ (by omega) (by omega) (Nat.le_refl _) (by omega) hm hmkey
        · exact ih _ _ (by omega) (by omega) (by omega) (by omega) hx hk

/-- **A binary search of a sorted list finds what is there.** -/
theorem isOk_binarySearch (hsrt : l.Pairwise fun a b => key a ≤ key b) :
    (binarySearch key l k).isOk = true ↔ ∃ x ∈ l, key x = k := by
  constructor
  · intro h
    simp only [binarySearch] at h
    cases hbase : l[searchWindow key l k l.length 0 l.length]? with
    | none =>
      rw [hbase] at h
      cases h
    | some x =>
      rw [hbase] at h
      refine ⟨x, mem_of_getElem? hbase, ?_⟩
      by_contra hne
      simp only [if_neg hne] at h
      cases h
  · rintro ⟨x, hx, hk⟩
    obtain ⟨i, hi⟩ := mem_iff_getElem?.mp hx
    obtain ⟨hlt, _⟩ := List.getElem?_eq_some_iff.mp hi
    obtain ⟨y, hy, hkey⟩ := searchWindow_spec l.length 0 l.length hsrt (by omega)
      (by omega) (Nat.zero_le i) (by omega) hi hk
    simp only [binarySearch, hy, if_pos hkey]
    rfl

/-- Where keys tell elements apart, the search decides membership. -/
theorem isOk_binarySearch_key (hkey : Function.Injective key)
    (hsrt : l.Pairwise fun a b => key a ≤ key b) :
    (binarySearch key l (key a)).isOk = true ↔ a ∈ l := by
  rw [isOk_binarySearch hsrt]
  constructor
  · rintro ⟨x, hx, hk⟩
    exact hkey hk ▸ hx
  · intro ha
    exact ⟨a, ha, rfl⟩

end LorePia.Lib
