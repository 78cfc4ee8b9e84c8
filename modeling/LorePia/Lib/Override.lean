import LorePia.Lib.SortedMap
import Mathlib.Data.List.Induction

namespace LorePia.Lib

open List List Option

/-!
# Overriding

Values under keys, given in an order in which later ones override earlier ones.  In a sorted
list the last element with a property is the greatest one with it, so a fold that overrides
computes a maximum for every key.

* `lastWith_eq_some_iff` — in a strictly sorted list the last element with a property is the
  greatest;
* `SortedMap.get?_index` — a map that is filled from a list holds the last value of each key;
* `SortedMap.get?_foldKeyed` — a map whose values are folded in place holds, under each key, the
  fold over the elements with that key.
-/

variable {α β : Type} {r : α → α → Prop}

/-! ### The last element with a property -/

/-- The last element that satisfies `p`. -/
def lastWith (p : α → Bool) (xs : List α) : Option α := xs.reverse.find? p

variable {xs ys : List α} {x : α}

@[simp] theorem lastWith_nil : lastWith p [] = none := rfl

theorem lastWith_append : lastWith p (xs ++ ys) = (lastWith p ys).or (lastWith p xs) := by
  rw [lastWith, reverse_append, find?_append]
  rfl

theorem lastWith_concat : lastWith p (xs ++ [x]) = if p x then some x else lastWith p xs := by
  by_cases hp : p x <;> simp [lastWith, hp]

theorem lastWith_eq_none_iff : lastWith p xs = none ↔ ∀ x ∈ xs, p x = false := by
  simp [lastWith]

theorem lastWith_mem (h : lastWith p xs = some x) : x ∈ xs ∧ p x = true := by
  refine ⟨?_, find?_some h⟩
  have := mem_of_find?_eq_some h
  rwa [mem_reverse] at this

theorem exists_lastWith (hx : x ∈ xs) (hp : p x = true) : ∃ y, lastWith p xs = some y := by
  refine isSome_iff_exists.mp ?_
  rw [lastWith, find?_isSome]
  exact ⟨x, mem_reverse.mpr hx, hp⟩

/-- Where the keys differ, any element under a key is its last one. -/
theorem lastWith_eq_some_of_nodup [DecidableEq κ] {key : α → κ} (h : (xs.map key).Nodup) :
    lastWith (fun y => decide (key y = k)) xs = some x ↔ x ∈ xs ∧ key x = k := by
  constructor
  · intro hlast
    obtain ⟨hmem, hk⟩ := lastWith_mem hlast
    exact ⟨hmem, of_decide_eq_true hk⟩
  · rintro ⟨hmem, hk⟩
    obtain ⟨y, hy⟩ := exists_lastWith (p := fun y => decide (key y = k)) hmem (decide_eq_true hk)
    obtain ⟨hymem, hyk⟩ := lastWith_mem hy
    rw [hy, inj_on_of_nodup_map h hymem hmem ((of_decide_eq_true hyk).trans hk.symm)]

theorem lastWith_filter : lastWith q (xs.filter p) = lastWith (fun x => p x && q x) xs := by
  rw [lastWith, lastWith, ← filter_reverse, find?_filter]
  simp only [Bool.decide_and, Bool.decide_eq_true]

theorem lastWith_map {p : β → Bool} :
    lastWith p (xs.map f) = (lastWith (fun x => p (f x)) xs).map f := by
  rw [lastWith, lastWith, ← map_reverse, find?_map]
  rfl

theorem lastWith_true : lastWith (fun _ => true) xs = xs.getLast? := by
  rw [lastWith, getLast?_eq_head?_reverse]
  cases xs.reverse <;> rfl

/-- The last element of some list is the last of the last list that has one. -/
theorem lastWith_flatMap {p : β → Bool} :
    lastWith p (xs.flatMap f) =
      (lastWith (fun x => (f x).any p) xs).bind fun x => lastWith p (f x) := by
  induction xs using reverseRecOn with
  | nil => rfl
  | append_singleton xs x ih =>
    rw [flatMap_append, lastWith_append, lastWith_concat, flatMap_singleton, ih]
    by_cases hx : (f x).any p = true
    · obtain ⟨y, hy, hp⟩ := any_eq_true.mp hx
      obtain ⟨z, hz⟩ := exists_lastWith hy hp
      rw [if_pos hx, hz, some_or, bind_some, hz]
    · have hnone : lastWith p (f x) = none := by
        rw [lastWith_eq_none_iff]
        simpa using hx
      rw [if_neg hx, hnone, none_or]

/-- The last element with a property is related to every other one with it. -/
theorem eq_or_rel_of_lastWith (hsrt : xs.Pairwise r)
    (h : lastWith p xs = some x) (hy : y ∈ xs) (hp : p y = true) : y = x ∨ r y x := by
  induction xs using reverseRecOn generalizing x with
  | nil => cases h
  | append_singleton xs last ih =>
    rw [pairwise_append] at hsrt
    obtain ⟨hxs, _, hlast⟩ := hsrt
    rw [lastWith_concat] at h
    by_cases hpl : p last = true
    · rw [if_pos hpl, some.injEq] at h
      rcases mem_append.mp hy with hy | hy
      · exact .inr (h ▸ hlast y hy last (mem_singleton.mpr rfl))
      · exact .inl ((mem_singleton.mp hy).trans h)
    · rw [if_neg hpl] at h
      rcases mem_append.mp hy with hy | hy
      · exact ih hxs h hy
      · exact absurd (mem_singleton.mp hy ▸ hp) hpl

/-- In a strictly sorted list the last element with a property is the greatest with it. -/
theorem lastWith_eq_some_iff (hsrt : xs.Pairwise r) (hasymm : ∀ a b, r a b → ¬ r b a) :
    lastWith p xs = some x ↔ x ∈ xs ∧ p x = true ∧ ∀ y ∈ xs, p y = true → y = x ∨ r y x := by
  induction xs using reverseRecOn generalizing x with
  | nil => simp
  | append_singleton xs last ih =>
    rw [pairwise_append] at hsrt
    obtain ⟨hxs, _, hlast⟩ := hsrt
    rw [lastWith_concat]
    by_cases hp : p last = true
    · rw [if_pos hp]
      constructor
      · rintro ⟨⟩
        refine ⟨by simp, hp, fun y hy _ => ?_⟩
        rcases mem_append.mp hy with hy | hy
        · exact .inr (hlast y hy last (by simp))
        · exact .inl (mem_singleton.mp hy)
      · rintro ⟨hx, _, hmax⟩
        rcases hmax last (by simp) hp with heq | hlt
        · rw [heq]
        · rcases mem_append.mp hx with hx | hx
          · exact absurd hlt (hasymm _ _ (hlast x hx last (by simp)))
          · rw [mem_singleton.mp hx]
    · rw [if_neg hp, ih hxs]
      constructor
      · rintro ⟨hx, hpx, hmax⟩
        refine ⟨by simp [hx], hpx, fun y hy hpy => ?_⟩
        rcases mem_append.mp hy with hy | hy
        · exact hmax y hy hpy
        · exact absurd (mem_singleton.mp hy ▸ hpy) hp
      · rintro ⟨hx, hpx, hmax⟩
        rcases mem_append.mp hx with hx | hx
        · exact ⟨hx, hpx, fun y hy hpy => hmax y (by simp [hy]) hpy⟩
        · exact absurd (mem_singleton.mp hx ▸ hpx) hp

namespace SortedMap

variable {κ ρ : Type} [LinearOrder κ]

/-! ### Maps filled from a list -/

/-- The map of the elements of a list under their keys, a later one in the place of an earlier
    one with its key. -/
def index (key : ρ → κ) (xs : List ρ) : SortedMap κ ρ :=
  xs.foldl (fun m x => m.insert (key x) x) empty

variable {key : ρ → κ} {k : κ}

theorem index_concat {xs : List ρ} {x : ρ} :
    index key (xs ++ [x]) = (index key xs).insert (key x) x := by
  rw [index, foldl_append]
  rfl

theorem get?_index {xs : List ρ} :
    (index key xs).get? k = lastWith (fun x => decide (key x = k)) xs := by
  induction xs using reverseRecOn with
  | nil => rfl
  | append_singleton xs x ih =>
    rw [index_concat, get?_insert, lastWith_concat, ih]
    by_cases hk : key x = k
    · simp [hk]
    · simp [hk, Ne.symm hk]

theorem mem_values {m : SortedMap κ ρ} : v ∈ m.values ↔ ∃ k, m.get? k = some v := by
  rw [values, List.mem_map]
  constructor
  · rintro ⟨⟨k, w⟩, hmem, rfl⟩
    exact ⟨k, get?_eq_some.mpr hmem⟩
  · rintro ⟨k, hget⟩
    exact ⟨(k, v), get?_eq_some.mp hget, rfl⟩

/-- The values of the map are the last elements of each key. -/
theorem mem_values_index {xs : List ρ} {x : ρ} :
    x ∈ (index key xs).values ↔ lastWith (fun y => decide (key y = key x)) xs = some x := by
  rw [mem_values]
  simp only [get?_index]
  constructor
  · rintro ⟨k, hlast⟩
    have hk : key x = k := by simpa using (lastWith_mem hlast).2
    rw [hk]
    exact hlast
  · intro hlast
    exact ⟨key x, hlast⟩

/-- Exactly the keys that are listed have a value. -/
theorem exists_mem_values_index {xs : List ρ} :
    (∃ v ∈ (index key xs).values, key v = k) ↔ ∃ x ∈ xs, key x = k := by
  constructor
  · rintro ⟨v, hv, hk⟩
    exact ⟨v, (lastWith_mem (mem_values_index.mp hv)).1, hk⟩
  · rintro ⟨x, hx, rfl⟩
    obtain ⟨v, hv⟩ := exists_lastWith (p := fun y => decide (key y = key x)) hx (decide_eq_true rfl)
    have hkey : key v = key x := of_decide_eq_true (lastWith_mem hv).2
    refine ⟨v, mem_values_index.mpr ?_, hkey⟩
    rw [hkey]
    exact hv

/-- Values that carry their keys are in the order of the keys. -/
theorem values_pairwise {m : SortedMap κ ρ} (hkey : ∀ k v, m.get? k = some v → key v = k) :
    m.values.Pairwise fun a b => key a < key b := by
  rw [values, pairwise_map]
  refine m.sorted.imp_of_mem ?_
  intro a b ha hb hlt
  rwa [hkey a.1 a.2 (get?_eq_some.mpr ha), hkey b.1 b.2 (get?_eq_some.mpr hb)]

/-- A value is found under its key among the values. -/
theorem lastWith_values {m : SortedMap κ ρ} (hkey : ∀ k v, m.get? k = some v → key v = k) :
    lastWith (fun v => decide (key v = k)) m.values = m.get? k := by
  have hnodup : (m.values.map key).Nodup := pairwise_map.mpr ((values_pairwise hkey).imp ne_of_lt)
  ext v
  rw [lastWith_eq_some_of_nodup hnodup]
  constructor
  · rintro ⟨hmem, rfl⟩
    obtain ⟨k', hget⟩ := mem_values.mp hmem
    rwa [hkey k' v hget]
  · intro hget
    exact ⟨mem_values.mpr ⟨k, hget⟩, hkey k v hget⟩

theorem key_of_get?_index {xs : List ρ} (h : (index key xs).get? k = some v) :
    key v = k := by
  rw [get?_index] at h
  exact of_decide_eq_true (lastWith_mem h).2

/-- Two maps with the same lookups are the same map. -/
theorem ext_get? {m m' : SortedMap κ ρ} (h : ∀ k, m.get? k = m'.get? k) : m = m' := by
  have hmem : ∀ entry, entry ∈ m.entries ↔ entry ∈ m'.entries := by
    intro ⟨k, v⟩
    rw [← get?_eq_some, ← get?_eq_some, h k]
  have hperm : m.entries.Perm m'.entries := by
    refine (perm_ext_iff_of_nodup ?_ ?_).mpr hmem
    · exact m.sorted.imp fun hlt heq => absurd (heq ▸ hlt) (lt_irrefl _)
    · exact m'.sorted.imp fun hlt heq => absurd (heq ▸ hlt) (lt_irrefl _)
  have heq : m.entries = m'.entries := hperm.eq_of_pairwise
    (fun a b _ _ hab hba => absurd (hab.trans hba) (lt_irrefl _)) m.sorted m'.sorted
  cases m
  cases m'
  cases heq
  rfl

/-- Filling a map goes on from its values. -/
theorem index_values_append {xs ys : List ρ} :
    index key ((index key xs).values ++ ys) = index key (xs ++ ys) := by
  refine ext_get? fun k => ?_
  rw [get?_index, get?_index, lastWith_append, lastWith_append,
    lastWith_values fun k v h => key_of_get?_index h, get?_index]

/-- Listing the same elements twice fills the same map. -/
theorem index_append_self {xs : List ρ} : index key (xs ++ xs) = index key xs := by
  refine ext_get? fun k => ?_
  rw [get?_index, get?_index, lastWith_append, Option.or_self]

/-! ### Maps whose values are folded in place -/

/-- Fold each element into the value under its key. -/
def foldKeyed (key : α → κ) (step : Option ρ → α → ρ) (m : SortedMap κ ρ) (xs : List α) :
    SortedMap κ ρ :=
  xs.foldl (fun m x => m.insert (key x) (step (m.get? (key x)) x)) m

/-- The value a key ends with: the fold over the elements with that key. -/
def foldOf (step : Option ρ → α → ρ) (xs : List α) : Option ρ :=
  xs.foldl (fun value x => some (step value x)) none

variable {keyOf : α → κ} {step : Option ρ → α → ρ}

theorem foldKeyed_concat :
    foldKeyed keyOf step m (xs ++ [x]) = (foldKeyed keyOf step m xs).insert (keyOf x)
        (step ((foldKeyed keyOf step m xs).get? (keyOf x)) x) := by
  rw [foldKeyed, foldl_append]
  rfl

theorem foldOf_concat : foldOf step (xs ++ [x]) = some (step (foldOf step xs) x) := by
  rw [foldOf, foldl_append]
  rfl

theorem foldOf_eq_none_iff : foldOf step xs = none ↔ xs = [] := by
  cases xs using reverseRecOn with
  | nil => simp [foldOf]
  | append_singleton xs x => simp [foldOf_concat]

theorem get?_foldKeyed :
    (foldKeyed keyOf step empty xs).get? k =
      foldOf step (xs.filter fun x => decide (keyOf x = k)) := by
  induction xs using reverseRecOn with
  | nil => rfl
  | append_singleton xs x ih =>
    rw [foldKeyed_concat, get?_insert, filter_append]
    by_cases hk : keyOf x = k
    · subst hk
      rw [if_pos rfl, ih]
      simp [foldOf_concat]
    · rw [if_neg (Ne.symm hk), ih]
      simp [hk]

theorem exists_foldOf (h : xs.getLast? = some y) :
    ∃ previous, foldOf step xs = some (step previous y) := by
  cases xs using reverseRecOn with
  | nil => cases h
  | append_singleton xs x =>
    rw [getLast?_concat] at h
    cases h
    exact ⟨foldOf step xs, foldOf_concat⟩

/-! ### Folds that check -/

/-- Every element passes a check against the value its key has when its turn comes. -/
def Fits (key : α → κ) (step : Option ρ → α → ρ) (ok : ρ → α → Bool) :
    SortedMap κ ρ → List α → Prop
  | _, [] => True
  | m, x :: xs => (m.get? (key x)).all (fun v => ok v x) = true ∧
      Fits key step ok (m.insert (key x) (step (m.get? (key x)) x)) xs

variable {ok : ρ → α → Bool}

theorem fits_append :
    Fits keyOf step ok m (xs ++ ys) ↔
      Fits keyOf step ok m xs ∧ Fits keyOf step ok (foldKeyed keyOf step m xs) ys := by
  induction xs generalizing m with
  | nil => simp [Fits, foldKeyed]
  | cons x xs ih =>
    rw [cons_append, Fits, Fits, ih, and_assoc]
    rfl

/-- A check that reads of a value only its last element, and that carries over from one element
    to the next, is a relation between all elements of a key. -/
theorem fits_empty_iff {s rel : α → α → Prop}
    (hok : ∀ v a b, keyOf a = keyOf b → (ok (step v a) b = true ↔ rel a b))
    (hsrt : xs.Pairwise s) (htrans : ∀ a b c, s a b → s b c → rel a b → rel b c → rel a c) :
    Fits keyOf step ok empty xs ↔ xs.Pairwise fun a b => keyOf a = keyOf b → rel a b := by
  induction xs using reverseRecOn with
  | nil => simp [Fits]
  | append_singleton xs x ih =>
    rw [pairwise_append] at hsrt
    obtain ⟨hxs, _, hx⟩ := hsrt
    rw [fits_append, ih hxs, pairwise_append]
    refine and_congr_right fun hpairwise => ?_
    have hget : (foldKeyed keyOf step empty xs).get? (keyOf x) =
        foldOf step (xs.filter fun y => decide (keyOf y = keyOf x)) := get?_foldKeyed
    have hlast : (xs.filter fun y => decide (keyOf y = keyOf x)).getLast? =
        lastWith (fun y => decide (keyOf y = keyOf x)) xs := by
      rw [← lastWith_true, lastWith_filter]
      simp
    cases hwith : lastWith (fun y => decide (keyOf y = keyOf x)) xs with
    | none =>
      have hnone : ∀ a ∈ xs, ¬ keyOf a = keyOf x := by simpa using lastWith_eq_none_iff.mp hwith
      rw [hwith, getLast?_eq_none_iff] at hlast
      rw [hlast] at hget
      rw [Fits, hget]
      simpa [foldOf, Fits] using fun a ha hkey => absurd hkey (hnone a ha)
    | some y =>
      obtain ⟨hy, hkey⟩ := lastWith_mem hwith
      rw [decide_eq_true_eq] at hkey
      obtain ⟨previous, hfold⟩ := exists_foldOf (hlast.trans hwith)
      rw [Fits, hget, hfold, all_some, hok previous y x hkey]
      constructor
      · rintro ⟨hrel, _⟩
        refine ⟨pairwise_singleton _ x, fun a ha b hb hab => ?_⟩
        cases mem_singleton.mp hb
        rcases eq_or_rel_of_lastWith (hxs.and hpairwise) hwith ha (decide_eq_true hab) with
          rfl | ⟨hs, hay⟩
        · exact hrel
        · exact htrans a y _ hs (hx y hy _ (mem_singleton.mpr rfl)) (hay (hab.trans hkey.symm)) hrel
      · rintro ⟨_, hrel⟩
        exact ⟨hrel y hy x (mem_singleton.mpr rfl) hkey, trivial⟩

end SortedMap

end LorePia.Lib
